import ReportSearch.Catalog.DateFormat
import ReportSearch.Json.Decode

/-!
# Searchable fields

A field has a type and is indexed in one or more ways, its variants: the root variant under the
field's own name, then others under names of their own. Which variant a search addresses follows
from the kinds of the variants, in their order.
-/

set_option autoImplicit false

namespace ReportSearch

inductive FieldType where
  /-- Free text, split into words. -/
  | string
  /-- Text that is kept as it is. -/
  | keyword
  | boolean
  /-- Signed integers of 32 bits. -/
  | integer
  /-- Signed integers of 64 bits. -/
  | long
  | double
  | date
  /-- An object with fields of its own, declared or open-ended. -/
  | nestedObject
  deriving DecidableEq, Repr

namespace FieldType

def name : FieldType → String
  | string => "string"
  | keyword => "keyword"
  | boolean => "boolean"
  | integer => "integer"
  | long => "long"
  | double => "double"
  | date => "date"
  | nestedObject => "nested-object"

def all : List FieldType := [string, keyword, boolean, integer, long, double, date, nestedObject]

def ofName? (text : String) : Option FieldType := all.find? (·.name = text)

end FieldType

inductive EpochUnit where
  | seconds
  | millis
  deriving DecidableEq, Repr

namespace EpochUnit

def name : EpochUnit → String
  | seconds => "seconds"
  | millis => "millis"

def ofName? (text : String) : Option EpochUnit := [seconds, millis].find? (·.name = text)

/-- The number that stands for an instant; a part of the unit is dropped. -/
def number (unit : EpochUnit) (t : Instant) : Int :=
  match unit with
  | seconds => t.seconds
  | millis => t.millis

end EpochUnit

inductive VariantKind where
  /-- Split into words. -/
  | analyzed
  /-- Kept as it is. -/
  | exact
  | numeric
  | boolean
  /-- A date in one of the field's formats. -/
  | date
  /-- A date as the number of units since the start of 1970. -/
  | epoch (unit : EpochUnit)
  /-- A tree of fields. -/
  | object
  deriving DecidableEq, Repr

namespace VariantKind

def name : VariantKind → String
  | analyzed => "analyzed"
  | exact => "exact"
  | numeric => "numeric"
  | boolean => "boolean"
  | date => "date"
  | epoch _ => "epoch"
  | object => "object"

/-- Whether values are kept as they are, so that they can be compared and counted. -/
def isVerbatim : VariantKind → Bool
  | analyzed => false
  | object => false
  | _ => true

def isEpoch : VariantKind → Bool
  | epoch _ => true
  | _ => false

end VariantKind

/-- One way in which a field is indexed; the root variant has no name. -/
structure Variant where
  name : Option String
  path : String
  kind : VariantKind
  analyzer : Option String
  deriving DecidableEq, Repr

namespace Variant

def root (field : String) (kind : VariantKind) (analyzer : Option String) : Variant :=
  ⟨none, field, kind, analyzer⟩

def named (field name : String) (kind : VariantKind) (analyzer : Option String) : Variant :=
  ⟨some name, field ++ "." ++ name, kind, analyzer⟩

end Variant

inductive NullValue where
  | boolean (value : Bool)
  | integer (value : Int)
  | double (value : Double)
  | text (value : String)
  deriving DecidableEq, Repr

structure Field where
  name : String
  type : FieldType
  rootVariant : Variant
  otherVariants : List Variant
  dateFormats : List DateFormat := []
  /-- An object whose members are not declared. -/
  isOpenEnded : Bool := false
  nullValue : Option NullValue := none
  /-- Shown when a request names no columns. -/
  isDefaultColumn : Bool := false
  deriving DecidableEq, Repr

namespace Field

def variants (field : Field) : List Variant := field.rootVariant :: field.otherVariants

/-- The first variant that keeps values as they are. -/
def verbatimVariant? (field : Field) : Option Variant := field.variants.find? (·.kind.isVerbatim)

def analyzedVariant? (field : Field) : Option Variant :=
  field.variants.find? (·.kind = .analyzed)

def epochVariant? (field : Field) : Option Variant := field.variants.find? (·.kind.isEpoch)

def dateVariant? (field : Field) : Option Variant := field.variants.find? (·.kind = .date)

def isMultiField (field : Field) : Bool := !field.otherVariants.isEmpty

def isObject (field : Field) : Bool := field.type = .nestedObject

/-- Facets count values, which takes a variant that keeps them. -/
def isFacetable (field : Field) : Bool := !field.isObject && field.verbatimVariant?.isSome

end Field

namespace VariantKind

def json : VariantKind → Json
  | epoch unit => .obj [("kind", .str "epoch"), ("unit", .str unit.name)]
  | kind => .obj [("kind", .str kind.name)]

end VariantKind

namespace Variant

def json (variant : Variant) : Json :=
  .obj ([("name", .ofText? variant.name), ("path", .str variant.path),
      ("kind", variant.kind.json)] ++
    match variant.analyzer with
    | some analyzer => [("analyzer", .str analyzer)]
    | none => [])

end Variant

namespace NullValue

def json : NullValue → Json
  | boolean b => .bool b
  | integer i => .ofInt i
  | double x => .ofDouble x
  | text s => .str s

end NullValue

namespace Field

/-- The members of a field's JSON object; empty parts are left out. -/
def members (field : Field) : List (String × Json) :=
  [("name", .str field.name), ("semantic_type", .str field.type.name),
    ("indexing_variants", .arr (field.variants.map Variant.json))] ++
  (if field.dateFormats.isEmpty then []
    else [("date_formats", .ofStrings (field.dateFormats.map DateFormat.pattern))]) ++
  [("dynamic_children", .bool field.isOpenEnded)] ++
  (match field.nullValue with
    | some value => [("default_null_value", value.json)]
    | none => []) ++
  [("default_column", .bool field.isDefaultColumn)]

def json (field : Field) : Json := .obj field.members

end Field

namespace Source

/-- A choice without content is written as its name, or as an object from its name to null. -/
def decodeName : Decoder String
  | str (some s) => .ok s
  | obj tooDeep members closed =>
    if tooDeep then .error .malformed
    else match members with
    | [(some name, null)] => if closed then .ok name else .error .malformed
    | [] => .error (if closed then .mismatched else .malformed)
    | (none, _) :: _ => .error .malformed
    | (_, value) :: _ => .error value.misfit
  | other => .error other.misfit

def decodeChoice {α : Type} (ofName? : String → Option α) : Decoder α := fun source => do
  match ofName? (← decodeName source) with
  | some value => return value
  | none => throw .mismatched

def decodeNull : Decoder Unit
  | null => .ok ()
  | other => .error other.misfit

/-- What stands beside the name of a variant kind: a unit, or nothing. -/
def decodeKindContent (name : String) (content : Option Source) : Except DecodeFault VariantKind :=
  let bare (kind : VariantKind) : Except DecodeFault VariantKind :=
    match content with
    | none => .ok kind
    | some source => (decodeNull source).map fun _ => kind
  match name with
  | "analyzed" => bare .analyzed
  | "exact" => bare .exact
  | "numeric" => bare .numeric
  | "boolean" => bare .boolean
  | "date" => bare .date
  | "object" => bare .object
  | "epoch" =>
    match content with
    | some source => (decodeChoice EpochUnit.ofName? source).map .epoch
    | none => .error .mismatched
  | _ => .error .mismatched

structure KindParts where
  name : Option String := none
  content : Option Source := none

def kindSlots : List (Slot KindParts) :=
  [slot "kind" (·.name) (fun parts name => { parts with name := some name }) decodeString,
    slot "unit" (·.content) (fun parts content => { parts with content := some content })
      fun source => if source.isGrammatical then .ok source else .error .malformed]

/-- A kind is an object of its name and its content in either order, or a list of both. -/
def decodeKind : Decoder VariantKind := fun source => do
  let parts ← decodeRecord kindSlots 2 {} some source
  match parts.name with
  | some name => decodeKindContent name parts.content
  | none => throw .mismatched

structure VariantParts where
  name : Option (Option String) := none
  path : Option String := none
  kind : Option VariantKind := none
  analyzer : Option (Option String) := none

def variantSlots : List (Slot VariantParts) :=
  [slot "name" (·.name) (fun parts x => { parts with name := some x }) (decodeOptional decodeString),
    slot "path" (·.path) (fun parts x => { parts with path := some x }) decodeString,
    slot "kind" (·.kind) (fun parts x => { parts with kind := some x }) decodeKind,
    slot "analyzer" (·.analyzer) (fun parts x => { parts with analyzer := some x })
      (decodeOptional decodeString)]

def finishVariant (parts : VariantParts) : Option Variant := do
  return ⟨parts.name.getD none, ← parts.path, ← parts.kind, parts.analyzer.getD none⟩

def decodeVariant : Decoder Variant := decodeRecord variantSlots 4 {} finishVariant

def decodeDateFormat : Decoder DateFormat := fun source => do
  match DateFormat.ofText (← decodeString source) with
  | .ok format => return format
  | .error _ => throw .mismatched

/-- The type of a null value is that of the JSON value. -/
def decodeNullValue : Decoder NullValue
  | bool b => .ok (.boolean b)
  | num (some n) =>
    match n.int64? with
    | some i => .ok (.integer i)
    | none => .ok (.double n.toDouble)
  | str (some s) => .ok (.text s)
  | other => .error other.misfit

structure FieldParts where
  name : Option String := none
  type : Option FieldType := none
  variants : Option (List Variant) := none
  dateFormats : Option (List DateFormat) := none
  isOpenEnded : Option Bool := none
  nullValue : Option (Option NullValue) := none
  isDefaultColumn : Option Bool := none

def fieldSlots : List (Slot FieldParts) :=
  [slot "name" (·.name) (fun parts x => { parts with name := some x }) decodeString,
    slot "semantic_type" (·.type) (fun parts x => { parts with type := some x })
      (decodeChoice FieldType.ofName?),
    slot "indexing_variants" (·.variants) (fun parts x => { parts with variants := some x })
      (decodeList decodeVariant),
    slot "date_formats" (·.dateFormats) (fun parts x => { parts with dateFormats := some x })
      (decodeList decodeDateFormat),
    slot "dynamic_children" (·.isOpenEnded) (fun parts x => { parts with isOpenEnded := some x })
      decodeBool,
    slot "default_null_value" (·.nullValue) (fun parts x => { parts with nullValue := some x })
      (decodeOptional decodeNullValue),
    slot "default_column" (·.isDefaultColumn)
      (fun parts x => { parts with isDefaultColumn := some x }) decodeBool]

/-- The outer option is empty when a field is missing, the inner one when there is no variant. -/
def finishField (parts : FieldParts) : Option (Option Field) := do
  let name ← parts.name
  let type ← parts.type
  match ← parts.variants with
  | [] => some none
  | rootVariant :: otherVariants =>
    return some
      { name, type, rootVariant, otherVariants
        dateFormats := parts.dateFormats.getD []
        isOpenEnded := parts.isOpenEnded.getD false
        nullValue := parts.nullValue.getD none
        isDefaultColumn := parts.isDefaultColumn.getD false }

def decodeField : Decoder (Option Field) := decodeRecord fieldSlots 3 {} finishField

end Source

end ReportSearch
