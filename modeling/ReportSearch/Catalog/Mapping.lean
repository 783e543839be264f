import ReportSearch.Catalog.Fault
import ReportSearch.Json.Printer

/-!
# Reading a mapping

A mapping is a JSON object whose `properties` declare fields. An entry of type `object` or `nested`
declares further fields below it, which follow it in the result under dotted names. The body of a
mapping may stand under `mappings`, under the name of a document type, or under both.
-/

set_option autoImplicit false

namespace ReportSearch

abbrev Members := List (String × Json)

structure Mapping where
  fields : List Field
  defaultColumns : List String
  versionTag : Option String
  deriving DecidableEq, Repr

namespace Mapping

def hasKey (members : Members) (key : String) : Bool := (members.lookup key).isSome

def leafName (name : String) : String :=
  String.ofList (name.toList.reverse.takeWhile (· != '.')).reverse

def isFieldName (name : String) : Bool := !name.isEmpty && !Text.hasBlank name

def isExcluded (spec : Members) : Bool :=
  match spec.lookup "index" with
  | some (.bool false) => true
  | some (.str s) => s = "no"
  | _ => false

def analyzerOf (spec : Members) : Option String := (spec.lookup "analyzer").bind Json.text?

def dateFormatsOf (spec : Members) : Except DeclarationFault (List DateFormat) :=
  let formats (text : String) := (DateFormat.listOfText text).mapError DeclarationFault.badFormat
  match spec.lookup "format" with
  | none => formats DateFormat.defaultFormats
  | some (.str text) => formats text
  | some _ => .error .formatNotText

/-- The kind of a date variant: below a date field, a first format that counts from 1970 makes the
variant a number. -/
def dateKind (isBelowDate : Bool) (formats : List DateFormat) : VariantKind :=
  if isBelowDate then
    match formats.head?.map DateFormat.pattern with
    | some "epoch_second" => .epoch .seconds
    | some "epoch_millis" => .epoch .millis
    | _ => .date
  else .date

def wholeNumberNames : List String := ["integer", "short", "byte"]

def fractionNames : List String := ["float", "double", "half_float", "scaled_float"]

/-- The kind of index and the type that a declaration asks for. -/
def classify (isBelowDate : Bool) (type : String) (spec : Members) :
    Except DeclarationFault (VariantKind × FieldType) :=
  if isExcluded spec then .error .notIndexed
  else if type = "string" then
    if (spec.lookup "index").bind Json.text? = some "not_analyzed" then .ok (.exact, .keyword)
    else .ok (.analyzed, .string)
  else if type = "text" then .ok (.analyzed, .string)
  else if type = "keyword" then .ok (.exact, .keyword)
  else if type = "boolean" then .ok (.boolean, .boolean)
  else if wholeNumberNames.contains type then .ok (.numeric, .integer)
  else if type = "long" then .ok (.numeric, .long)
  else if fractionNames.contains type then .ok (.numeric, .double)
  else if type = "date" then
    (dateFormatsOf spec).map fun formats => (dateKind isBelowDate formats, .date)
  else if type = "object" || type = "nested" then .ok (.object, .nestedObject)
  else .error (.unsupportedType type)

def variantOf (field : String) (type : FieldType) (name : String) (entry : Json) :
    Except DeclarationFault Variant :=
  match entry.members? with
  | none => .error (.variantNotObject name)
  | some spec =>
    match (spec.lookup "type").bind Json.text? with
    | none => .error (.variantWithoutType name)
    | some declared =>
      match classify (type = .date) declared spec with
      | .error fault => .error fault
      | .ok (kind, _) =>
        if kind = .object then .error (.variantIsTree name)
        else .ok (Variant.named field name kind (analyzerOf spec))

def variantsOf (field : String) (type : FieldType) (entries : Members) :
    Except DeclarationFault (List Variant) :=
  entries.mapM fun (name, entry) => variantOf field type name entry

/-- The value that stands in for a missing one, if it fits the type. -/
def nullValueOf (type : FieldType) (value : Json) : Except DeclarationFault NullValue :=
  let fit : Option NullValue :=
    match type with
    | .boolean =>
      match value with
      | .bool b => some (.boolean b)
      | .str s => if s = "true" then some (.boolean true)
        else if s = "false" then some (.boolean false) else none
      | _ => none
    | .integer | .long => value.int64?.map .integer
    | .double => value.number?.map fun n => .double n.toDouble
    | .string | .keyword => value.text?.map .text
    | .date | .nestedObject => none
  match fit with
  | some found => .ok found
  | none => .error (.nullValueMisfit value.compact type)

def declaredFormats (type : FieldType) (spec : Members) :
    Except DeclarationFault (List DateFormat) :=
  if type = .date then dateFormatsOf spec
  else if hasKey spec "format" then .error .formatWithoutDate
  else .ok []

/-- Whether an object takes members that are not declared. -/
def openness (type : FieldType) (spec : Members) : Except DeclarationFault Bool :=
  if type = .nestedObject then
    match spec.lookup "dynamic" with
    | some (.bool b) => .ok b
    | some (.str s) => .ok (s = "true")
    | some _ => .error .dynamicNotFlag
    | none => .ok !hasKey spec "properties"
  else .ok false

def declaredNullValue (type : FieldType) (spec : Members) :
    Except DeclarationFault (Option NullValue) :=
  match spec.lookup "null_value" with
  | none => .ok none
  | some .null => .ok none
  | some value => (nullValueOf type value).map some

/-- A field from its variants and the rest of its declaration. -/
def assemble (name : String) (type : FieldType) (rootVariant : Variant)
    (otherVariants : List Variant) (spec : Members) : Except DeclarationFault Field := do
  let dateFormats ← declaredFormats type spec
  let isOpenEnded ← openness type spec
  let nullValue ← declaredNullValue type spec
  return { name, type, rootVariant, otherVariants, dateFormats, isOpenEnded, nullValue }

/-- The older form of a field with several variants: the one named like the field is its root. -/
def legacyField (name : String) (spec : Members) : Except DeclarationFault Field := do
  let some variants := (spec.lookup "fields").bind Json.members?
    | throw .multiFieldWithoutFields
  let leaf := leafName name
  let some rootSpec := (variants.lookup leaf).bind Json.members?
    | throw (.multiFieldWithoutRoot leaf)
  let some rootType := (rootSpec.lookup "type").bind Json.text?
    | throw .multiFieldRootWithoutType
  let (kind, type) ← classify false rootType rootSpec
  let others ← variantsOf name type (variants.filter (·.1 != leaf))
  assemble name type (Variant.root name kind (analyzerOf rootSpec)) others rootSpec

def declaredType (spec : Members) : Except DeclarationFault String :=
  match spec.lookup "type" with
  | some (.str type) => .ok type
  | some _ => .error .typeNotText
  | none => if hasKey spec "properties" then .ok "object" else .error .missingType

def otherVariants (name : String) (type : FieldType) (spec : Members) :
    Except DeclarationFault (List Variant) :=
  match spec.lookup "fields" with
  | none => .ok []
  | some (.obj entries) => variantsOf name type entries
  | some _ => .error .fieldsNotObject

/-- The field that an entry declares itself, without those below it. -/
def fieldOf (name declared : String) (spec : Members) : Except DeclarationFault Field := do
  if declared = "multi_field" then legacyField name spec
  else
    let (kind, type) ← classify false declared spec
    let others ← otherVariants name type spec
    assemble name type (Variant.root name kind (analyzerOf spec)) others spec

theorem sizeOf_lookup_lt {members : Members} {key : String} {value : Json}
    (h : members.lookup key = some value) : sizeOf value < sizeOf members := by
  induction members with
  | nil => simp at h
  | cons entry rest ih =>
    obtain ⟨k, v⟩ := entry
    rw [List.lookup_cons] at h
    split at h
    · cases h
      simp
      omega
    · have := ih h
      simp
      omega

mutual

/-- The fields that an entry declares: its own, then those below it. -/
def entryFields (name : String) (entry : Json) : Except CatalogFault (List Field) :=
  if !isFieldName name then .error (.field name .badName)
  else
    match entry with
    | .obj spec =>
      match declaredType spec with
      | .error fault => .error (.field name fault)
      | .ok declared =>
        match fieldOf name declared spec with
        | .error fault => .error (.field name fault)
        | .ok field =>
          if field.isObject && declared != "multi_field" then
            match h : spec.lookup "properties" with
            | none => .ok [field]
            | some (.obj children) =>
              have : sizeOf children < sizeOf spec := by
                have := sizeOf_lookup_lt h
                simp at this
                omega
              (entriesFields (name ++ ".") children).map (field :: ·)
            | some _ => .error (.field name .propertiesNotObject)
          else .ok [field]
    | _ => .error (.field name .notObject)
termination_by sizeOf entry

/-- The fields that entries declare one after the other, with a text before each name. -/
def entriesFields (path : String) (entries : Members) : Except CatalogFault (List Field) :=
  match entries with
  | [] => .ok []
  | (name, entry) :: rest => do
    let first ← entryFields (path ++ name) entry
    let others ← entriesFields path rest
    return first ++ others
termination_by sizeOf entries

end

/-- The object that holds `properties`, taken out of what stands around it. -/
def body (source : Json) : Except OutlineFault Members := do
  let .obj outer := source | throw .notObject
  let inner ← match outer.lookup "mappings" with
    | none => pure outer
    | some (.obj inner) => pure inner
    | some _ => throw .mappingsNotObject
  match inner with
  | [(key, .obj typed)] =>
    if key != "properties" && hasKey typed "properties" then return typed else return inner
  | _ => return inner

def firstRepeated? (seen : List String) : List String → Option String
  | [] => none
  | name :: rest => if seen.contains name then some name else firstRepeated? (name :: seen) rest

def columnNames : Option Json → Except OutlineFault (List String)
  | none => .ok []
  | some (.arr columns) =>
    columns.mapM fun column =>
      match column with
      | .str name => .ok name
      | _ => .error .columnNotText
  | some _ => .error .columnsNotList

def markDefaultColumns (columns : List String) (fields : List Field) : List Field :=
  fields.map fun field =>
    if columns.contains field.name then { field with isDefaultColumn := true } else field

def tagText : Json → String
  | .str s => s
  | other => other.compact

def ofJson (source : Json) : Except CatalogFault Mapping := do
  let body ← (body source).mapError .outline
  let some (.obj properties) := body.lookup "properties" | throw (.outline .noProperties)
  if properties.isEmpty then throw (.outline .noFields)
  let fields ← entriesFields "" properties
  if let some name := firstRepeated? [] (fields.map Field.name) then
    throw (.field name .declaredTwice)
  let notes := ((body.lookup "_meta").bind Json.members?).getD []
  let defaultColumns ← (columnNames (notes.lookup "default_columns")).mapError .outline
  if let some name := defaultColumns.find? fun name => !(fields.map Field.name).contains name then
    throw (.unknownDefaultColumn name)
  return { fields := markDefaultColumns defaultColumns fields
           defaultColumns
           versionTag := (notes.lookup "version").map tagText }

def ofText (text : String) : Except CatalogFault Mapping :=
  match Json.parse? text with
  | some source => ofJson source
  | none => .error .notJson

end Mapping

end ReportSearch
