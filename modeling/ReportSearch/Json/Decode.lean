import ReportSearch.Json.Source

/-!
# Decoding records from JSON

A decoder walks over a source in order and stops at the first fault: the text is malformed there,
or what stands there does not fit. Records are written as objects, in which unknown keys are skipped
and no known key may come twice, or as lists of their fields in order of declaration.
-/

set_option autoImplicit false

namespace ReportSearch

inductive DecodeFault where
  /-- The text is not JSON at this place. -/
  | malformed
  /-- A value has the wrong type, is missing, or comes twice. -/
  | mismatched
  deriving DecidableEq, Repr

namespace Source

abbrev Decoder (α : Type) := Source → Except DecodeFault α

/-- The fault of meeting this source where another type is expected. -/
def misfit : Source → DecodeFault
  | num none => .malformed
  | str none => .malformed
  | broken => .malformed
  | _ => .mismatched

def decodeString : Decoder String
  | str (some s) => .ok s
  | other => .error other.misfit

def decodeBool : Decoder Bool
  | bool b => .ok b
  | other => .error other.misfit

/-- An integer for which `fits` holds. -/
def decodeInt (fits : Int → Bool) : Decoder Int
  | num (some (.int i)) => if fits i then .ok i else .error .mismatched
  | other => .error other.misfit

def decodeInt64 : Decoder Int := decodeInt Number.isInt64

def decodeNat64 : Decoder Nat := fun source =>
  (decodeInt (fun i => 0 ≤ i && i ≤ Number.greatestNat64) source).map Int.toNat

def decodeDouble : Decoder Double
  | num (some n) => .ok n.toDouble
  | other => .error other.misfit

def decodeJson : Decoder Json := fun source =>
  match source.json? with
  | some value => .ok value
  | none => .error .malformed

/-- Null stands for nothing. -/
def decodeOptional {α : Type} (decode : Decoder α) : Decoder (Option α)
  | null => .ok none
  | other => (decode other).map some

def decodeList {α : Type} (decode : Decoder α) : Decoder (List α)
  | arr tooDeep items closed => do
    if tooDeep then throw .malformed
    let values ← items.mapM decode
    if !closed then throw .malformed
    return values
  | other => .error other.misfit

/-- An object of any keys whose values are of one kind; a repeated key takes its last value. -/
def decodeEntries {α : Type} (decode : Decoder α) : Decoder (List (String × α))
  | obj tooDeep members closed => do
    if tooDeep then throw .malformed
    let entries ← members.foldlM (fun entries (key, value) =>
      match key with
      | some key => (decode value).map (Json.insertMember key · entries)
      | none => throw .malformed) []
    if !closed then throw .malformed
    return entries
  | other => .error other.misfit

/-- A record being read: what is known of it is a `σ`. -/
structure Slot (σ : Type) where
  key : String
  isFilled : σ → Bool
  fill : σ → Decoder σ

/-- A slot for a field that is kept as an option in the record being read. -/
def slot {σ α : Type} (key : String) (get : σ → Option α) (set : σ → α → σ)
    (decode : Decoder α) : Slot σ where
  key := key
  isFilled state := (get state).isSome
  fill state source := (decode source).map (set state)

def fillMember {σ : Type} (slots : List (Slot σ)) (state : σ) :
    Option String × Source → Except DecodeFault σ
  | (none, _) => .error .malformed
  | (some key, value) =>
    match slots.find? (·.key = key) with
    | some slot => if slot.isFilled state then .error .mismatched else slot.fill state value
    | none => if value.isGrammatical then .ok state else .error .malformed

/-- Fills the slots from a list in order; what is left over has no place. -/
def fillInOrder {σ : Type} (closed : Bool) :
    List (Slot σ) → List Source → σ → Except DecodeFault σ
  | _, [], state => if closed then .ok state else .error .malformed
  | [], _ :: _, _ => .error .malformed
  | slot :: slots, item :: items, state => do
    let state ← slot.fill state item
    fillInOrder closed slots items state

/-- A record with the given slots; `finish` says what a missing field stands for. Written as a list
it has `least` fields or more. -/
def decodeRecord {σ α : Type} (slots : List (Slot σ)) (least : Nat) (start : σ)
    (finish : σ → Option α) : Decoder α := fun source => do
  let state ← match source with
    | obj tooDeep members closed => do
      if tooDeep then throw DecodeFault.malformed
      let state ← members.foldlM (fillMember slots) start
      if !closed then throw DecodeFault.malformed
      pure state
    | arr tooDeep items closed => do
      if tooDeep then throw DecodeFault.malformed
      let state ← fillInOrder closed slots items start
      if items.length < least then throw DecodeFault.mismatched
      pure state
    | other => throw other.misfit
  match finish state with
  | some value => return value
  | none => throw .mismatched

def decodeText? {α : Type} (decode : Decoder α) (text : String) : Option α :=
  let (source, rest) := ofText text
  if (skipSpace rest).isEmpty then (decode source).toOption else none

def decodeValue? {α : Type} (decode : Decoder α) (value : Json) : Option α :=
  (decode (ofJson value)).toOption

end Source

end ReportSearch
