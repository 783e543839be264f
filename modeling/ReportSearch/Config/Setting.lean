import ReportSearch.Number.Integer
import ReportSearch.Number.Shortest

/-!
# Settings

A setting is what a source of settings says under a key. Sources are laid over each other: tables
are merged entry by entry, and any other setting replaces what was there. A reading of a setting is
lenient: texts are read as numbers and flags, and numbers are rounded.
-/

set_option autoImplicit false

namespace ReportSearch

open Text

inductive Setting where
  /-- An item of a list that no source has set. -/
  | absent
  | flag (value : Bool)
  /-- An integer of 64 bits. -/
  | integer (value : Int)
  | real (value : Double)
  | notANumber
  | text (value : String)
  | list (items : List Setting)
  | table (entries : List (String × Setting))
  deriving Repr, Inhabited

namespace Setting

def changeEntry (name : String) (change : Setting → Setting) :
    List (String × Setting) → List (String × Setting)
  | [] => [(name, change (table []))]
  | (key, value) :: rest =>
    if key = name then (key, change value) :: rest else (key, value) :: changeEntry name change rest

/-- The entries of a table; anything else has none. -/
def entries : Setting → List (String × Setting)
  | table entries => entries
  | _ => []

def items : Setting → List Setting
  | list items => items
  | _ => []

/-- A table in which one entry is changed; a new entry starts as an empty table. -/
def updateEntry (name : String) (change : Setting → Setting) (held : Setting) : Setting :=
  table (changeEntry name change held.entries)

/-- The place that an index means in a list of `size` items; a negative one counts from the end. -/
def placeOf (index : Int) (size : Nat) : Nat :=
  if index < 0 then size - index.natAbs else index.toNat

/-- A list in which one item is changed; it grows up to that place. -/
def updateItem (index : Int) (change : Setting → Setting) (held : Setting) : Setting :=
  let items := held.items
  let place := placeOf index items.length
  let grown := items ++ List.replicate (place + 1 - items.length) absent
  list (grown.modify place change)

mutual

/-- What stands after the second setting was laid over the first. -/
def overlay : Setting → Setting → Setting
  | held, table incoming => overlayEntries held incoming
  | _, incoming => incoming

def overlayEntries : Setting → List (String × Setting) → Setting
  | held, [] => held
  | held, (name, incoming) :: rest =>
    overlayEntries (held.updateEntry name fun inner => overlay inner incoming) rest

end

inductive Step where
  | entry (name : String)
  | item (index : Int)
  deriving DecidableEq, Repr

/-- Lays a setting over the one that a path leads to; an item at the end of a path is replaced. -/
def overlayAt (incoming : Setting) : List Step → Setting → Setting
  | [], held => overlay held incoming
  | .entry name :: path, held => held.updateEntry name (overlayAt incoming path)
  | [.item index], held => held.updateItem index fun _ => incoming
  | .item index :: path, held => held.updateItem index (overlayAt incoming path)

def isNameChar (c : Char) : Bool := c.isAlphanum || c = ' ' || c = '_' || c = '-'

def spanName? (cs : List Char) : Option (String × List Char) :=
  let name := cs.takeWhile isNameChar
  if name.isEmpty then none else some (String.ofList name, cs.dropWhile isNameChar)

def trimSpace (cs : List Char) : List Char :=
  let isSpace := fun c => c = ' ' || c = '\t'
  ((cs.dropWhile isSpace).reverse.dropWhile isSpace).reverse

/-- An index of 64 bits, without a plus sign. -/
def readIndex? (cs : List Char) : Option Int :=
  match trimSpace cs with
  | '+' :: _ => none
  | cs => readInt64? (String.ofList cs)

/-- The steps after the first name: a point and a name, or an index in brackets. -/
def readSteps? : Nat → List Char → Option (List Step)
  | _, [] => some []
  | fuel + 1, '.' :: cs => do
    let (name, rest) ← spanName? cs
    return .entry name :: (← readSteps? fuel rest)
  | fuel + 1, '[' :: cs => do
    let (inside, rest) ← cutAt? ']' cs
    return .item (← readIndex? inside) :: (← readSteps? fuel rest)
  | _, _ => none

def readPath? (cs : List Char) : Option (List Step) := do
  let (name, rest) ← spanName? cs
  return .entry name :: (← readSteps? rest.length rest)

/-- The path that a key spells; a key of any other form is one name. -/
def pathOf (key : String) : List Step :=
  (readPath? key.toList).getD [.entry key]

def overlaySource (held : Setting) (source : List (String × Setting)) : Setting :=
  source.foldl (fun held (key, value) => overlayAt value (pathOf key) held) held

/-- Lower-case words that stand for a flag. -/
def flagOfWord? (text : String) : Option Bool :=
  let word := String.ofList (lowerAscii text.toList)
  if ["true", "on", "yes"].contains word then some true
  else if ["false", "off", "no"].contains word then some false
  else none

def text? : Setting → Option String
  | text s => some s
  | flag b => some (if b then "true" else "false")
  | integer i => some (toString i)
  | real x => some x.plainText
  | notANumber => some "NaN"
  | _ => none

def flag? : Setting → Option Bool
  | flag b => some b
  | integer i => some (i != 0)
  | real x => some !x.isZero
  | notANumber => some true
  | text "1" => some true
  | text "0" => some false
  | text s => flagOfWord? s
  | _ => none

/-- The integer nearest to a double, a half away from zero, within the given bounds. -/
def clamped (least greatest : Int) (x : Double) : Int :=
  if x.isFinite then max least (min x.roundAway greatest)
  else if x.negative then least else greatest

def integer? : Setting → Option Int
  | integer i => some i
  | flag b => some b.toInt
  | real x => some (clamped (-0x8000000000000000) 0x7fffffffffffffff x)
  | notANumber => some 0
  | text s =>
    match flagOfWord? s with
    | some b => some b.toInt
    | none => readInt64? s
  | _ => none

def natural? : Setting → Option Nat
  | integer i => if 0 ≤ i then some i.toNat else none
  | flag b => some b.toNat
  | real x => some (clamped 0 0xffffffffffffffff x).toNat
  | notANumber => some 0
  | text s =>
    match flagOfWord? s with
    | some b => some b.toNat
    | none => readNat64? s
  | _ => none

def optional? {α : Type} (read : Setting → Option α) : Setting → Option (Option α)
  | absent => some none
  | held => (read held).map some

/-- A part of a record, which has a name in a table and a place in a list. A part that is not
given is `missing`. -/
def part? {α : Type} (record : Setting) (place : Nat) (name : String) (missing : Option α)
    (read : Setting → Option α) : Option α :=
  match record with
  | table entries =>
    match entries.lookup name with
    | some held => read held
    | none => missing
  | list items =>
    match items[place]? with
    | some held => read held
    | none => missing
  | _ => none

end Setting

end ReportSearch
