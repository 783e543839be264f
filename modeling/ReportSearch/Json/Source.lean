import ReportSearch.Json.Numeral

/-!
# JSON texts as far as they make sense

A reader that decodes while it reads reports whichever fault it meets first: a member of the wrong
type, or a place where the text stops being JSON. `Source` keeps what a text holds up to that place,
so that both kinds of fault keep their order. A part that is skipped is held to the grammar only,
while a part that is decoded also has to have numbers within range, strings without lone surrogates
and no more than `deepest` containers around and including it.

Every text has a source (`Source.ofText`), and so has every value (`Source.ofJson`).
-/

set_option autoImplicit false

namespace ReportSearch

inductive Source where
  | null
  | bool (value : Bool)
  /-- A numeral; without a value when it is beyond the range. -/
  | num (value : Option Number)
  /-- A string; without a value when it has a lone surrogate. -/
  | str (value : Option String)
  /-- The items read, and whether the end of the list was met. -/
  | arr (tooDeep : Bool) (items : List Source) (closed : Bool)
  | obj (tooDeep : Bool) (members : List (Option String × Source)) (closed : Bool)
  /-- No value starts here. -/
  | broken
  deriving Repr, Inhabited

namespace Source

open Text

/-- The greatest number of nested containers. -/
def deepest : Nat := 127

def isSpace (c : Char) : Bool := c = ' ' || c = '\n' || c = '\t' || c = '\r'

def skipSpace (cs : List Char) : List Char := cs.dropWhile isSpace

def hexQuad? : List Char → Option (Nat × List Char)
  | a :: b :: c :: d :: rest => do
    let a ← hexDigit? a
    let b ← hexDigit? b
    let c ← hexDigit? c
    let d ← hexDigit? d
    return (a * 4096 + b * 256 + c * 16 + d, rest)
  | _ => none

def isHighSurrogate (n : Nat) : Bool := 0xD800 ≤ n && n < 0xDC00

def isLowSurrogate (n : Nat) : Bool := 0xDC00 ≤ n && n < 0xE000

/-- The character of an escape after its `\u`; the inner option is empty for a lone surrogate. -/
def unicodeEscape? (cs : List Char) : Option (Option Char × List Char) := do
  let (high, rest) ← hexQuad? cs
  if isLowSurrogate high then return (none, rest)
  if isHighSurrogate high then
    match rest with
    | '\\' :: 'u' :: more =>
      match hexQuad? more with
      | some (low, after) =>
        if isLowSurrogate low then
          return (some (Char.ofNat (0x10000 + (high - 0xD800) * 0x400 + (low - 0xDC00))), after)
        else return (none, rest)
      | none => return (none, rest)
    | _ => return (none, rest)
  return (some (Char.ofNat high), rest)

def simpleEscape? : Char → Option Char
  | '"' => some '"'
  | '\\' => some '\\'
  | '/' => some '/'
  | 'b' => some '\x08'
  | 'f' => some '\x0c'
  | 'n' => some '\n'
  | 'r' => some '\r'
  | 't' => some '\t'
  | _ => none

/-- Reads a string after its opening quote. The characters read so far are held in reverse, or
nothing once a lone surrogate was met. -/
def readString? : Nat → Option (List Char) → List Char → Option (Option String × List Char)
  | 0, _, _ => none
  | _, _, [] => none
  | _, read, '"' :: rest => some (read.map fun cs => String.ofList cs.reverse, rest)
  | fuel + 1, read, '\\' :: 'u' :: rest => do
    let (c?, rest) ← unicodeEscape? rest
    readString? fuel (c?.bind fun c => read.map (c :: ·)) rest
  | fuel + 1, read, '\\' :: e :: rest => do
    let c ← simpleEscape? e
    readString? fuel (read.map (c :: ·)) rest
  | _, _, ['\\'] => none
  | fuel + 1, read, c :: rest =>
    if c.toNat < 32 then none else readString? fuel (read.map (c :: ·)) rest

mutual

/-- Reads one value with `depth` containers around it. The fuel bounds the steps by the length of
the text. After a place that makes no sense nothing is left to read. -/
def readValue : Nat → Nat → List Char → Source × List Char
  | 0, _, _ => (broken, [])
  | fuel + 1, depth, cs =>
    match skipSpace cs with
    | 'n' :: 'u' :: 'l' :: 'l' :: rest => (null, rest)
    | 't' :: 'r' :: 'u' :: 'e' :: rest => (bool true, rest)
    | 'f' :: 'a' :: 'l' :: 's' :: 'e' :: rest => (bool false, rest)
    | '"' :: rest =>
      match readString? (rest.length + 1) (some []) rest with
      | some (s, rest) => (str s, rest)
      | none => (broken, [])
    | '[' :: rest =>
      let (items, closed, rest) :=
        match skipSpace rest with
        | ']' :: rest => ([], true, rest)
        | rest => readItems fuel (depth + 1) rest
      (arr (decide (deepest ≤ depth)) items closed, rest)
    | '\x7b' :: rest =>
      let (members, closed, rest) :=
        match skipSpace rest with
        | '\x7d' :: rest => ([], true, rest)
        | rest => readMembers fuel (depth + 1) rest
      (obj (decide (deepest ≤ depth)) members closed, rest)
    | rest =>
      match Numeral.read? rest with
      | some (n, rest) => (num n.value?, rest)
      | none => (broken, [])

/-- Reads items up to the end of their list; there is at least one. -/
def readItems : Nat → Nat → List Char → List Source × Bool × List Char
  | 0, _, _ => ([broken], false, [])
  | fuel + 1, depth, cs =>
    let (item, rest) := readValue fuel depth cs
    match skipSpace rest with
    | ',' :: rest =>
      let (items, closed, rest) := readItems fuel depth rest
      (item :: items, closed, rest)
    | ']' :: rest => ([item], true, rest)
    | _ => ([item], false, [])

/-- Reads members up to the end of their object; there is at least one. -/
def readMembers : Nat → Nat → List Char → List (Option String × Source) × Bool × List Char
  | 0, _, _ => ([], false, [])
  | fuel + 1, depth, cs =>
    match skipSpace cs with
    | '"' :: rest =>
      match readString? (rest.length + 1) (some []) rest with
      | none => ([], false, [])
      | some (key, rest) =>
        match skipSpace rest with
        | ':' :: rest =>
          let (value, rest) := readValue fuel depth rest
          match skipSpace rest with
          | ',' :: rest =>
            let (members, closed, rest) := readMembers fuel depth rest
            ((key, value) :: members, closed, rest)
          | '\x7d' :: rest => ([(key, value)], true, rest)
          | _ => ([(key, value)], false, [])
        | _ => ([(key, broken)], false, [])
    | _ => ([], false, [])

end

def ofChars (cs : List Char) : Source × List Char := readValue (2 * cs.length + 2) 0 cs

def ofText (text : String) : Source × List Char := ofChars text.toList

mutual

/-- The value, if every part of the source is sound. -/
def json? : Source → Option Json
  | null => some .null
  | bool b => some (.bool b)
  | num n => n.map .num
  | str s => s.map .str
  | arr tooDeep items closed =>
    if tooDeep || !closed then none else (jsonItems? items).map .arr
  | obj tooDeep members closed =>
    if tooDeep || !closed then none else (jsonMembers? [] members).map .obj
  | broken => none

def jsonItems? : List Source → Option (List Json)
  | [] => some []
  | item :: rest => do
    let item ← json? item
    let rest ← jsonItems? rest
    return item :: rest

def jsonMembers? (before : List (String × Json)) :
    List (Option String × Source) → Option (List (String × Json))
  | [] => some before
  | (key, value) :: rest => do
    let key ← key
    let value ← json? value
    jsonMembers? (Json.insertMember key value before) rest

end

mutual

/-- Whether the source keeps to the grammar, which is all that skipping it asks. -/
def isGrammatical : Source → Bool
  | arr _ items closed => closed && areGrammatical items
  | obj _ members closed => closed && areGrammaticalMembers members
  | broken => false
  | _ => true

def areGrammatical : List Source → Bool
  | [] => true
  | item :: rest => isGrammatical item && areGrammatical rest

def areGrammaticalMembers : List (Option String × Source) → Bool
  | [] => true
  | (_, value) :: rest => isGrammatical value && areGrammaticalMembers rest

end

mutual

def ofJson : Json → Source
  | .null => null
  | .bool b => bool b
  | .num n => num (some n)
  | .str s => str (some s)
  | .arr items => arr false (ofItems items) true
  | .obj members => obj false (ofMembers members) true

def ofItems : List Json → List Source
  | [] => []
  | item :: rest => ofJson item :: ofItems rest

def ofMembers : List (String × Json) → List (Option String × Source)
  | [] => []
  | (key, value) :: rest => (some key, ofJson value) :: ofMembers rest

end

end Source

namespace Json

/-- The value that a text holds, with nothing but space around it. -/
def parse? (text : String) : Option Json :=
  let (source, rest) := Source.ofText text
  if (Source.skipSpace rest).isEmpty then source.json? else none

end Json

end ReportSearch
