import ReportSearch.Proofs.Catalog.NullValue
import ReportSearch.Proofs.Json.Printed
import ReportSearch.Proofs.Text.Blank

/-!
# Fields that come back

A field is decoded from the JSON that it is written as. Its date formats are kept as trimmed
patterns, which stand for the same formats again, and its null value has the type that its JSON
value shows. As a value every field of a mapping comes back; as text it does unless its null value
is a double that is not read back from its own text.
-/

set_option autoImplicit false

namespace ReportSearch

open Attempts

namespace DateFormat

/-- A pattern is trimmed already, so that it stands for its format again. -/
theorem ofText_pattern {text : String} {format : DateFormat} (h : ofText text = .ok format) :
    ofText format.pattern = .ok format := by
  obtain ⟨shape, hshape, rfl⟩ := map_eq_ok_iff.mp h
  rw [ofText, Text.trim_trim]
  exact map_eq_ok_iff.mpr ⟨shape, hshape, rfl⟩

end DateFormat

namespace Field

/-- The date formats are those that their patterns stand for, and the null value is one that is
represented. -/
structure IsRestorable (field : Field) : Prop where
  formats : ∀ format ∈ field.dateFormats, DateFormat.ofText format.pattern = .ok format
  nullValue : ∀ value, field.nullValue = some value → value.IsRepresented

end Field

/-- What a null value may become by way of its text: a double becomes what its own text is read as,
and all else stays as it is. -/
inductive NullValue.Rereads : Option NullValue → Option NullValue → Prop where
  | same {nullValue : Option NullValue} (hother : ∀ x, nullValue ≠ some (.double x)) :
      Rereads nullValue nullValue
  | double {x y : Double} (hread : (Number.double x).reread? = some (.double y)) :
      Rereads (some (.double x)) (some (.double y))

namespace NullValue

variable {nullValue found : Option NullValue}

theorem rereads_double_iff {x : Double} :
    Rereads (some (.double x)) found ↔
      ∃ y, (Number.double x).reread? = some (.double y) ∧ found = some (.double y) := by
  constructor
  · intro h
    cases h with
    | same hother => exact absurd rfl (hother x)
    | double hread => exact ⟨_, hread, rfl⟩
  · rintro ⟨y, hread, rfl⟩
    exact .double hread

theorem rereads_iff_eq (hother : ∀ x, nullValue ≠ some (.double x)) :
    Rereads nullValue found ↔ found = nullValue := by
  constructor
  · intro h
    cases h with
    | same => rfl
    | double hread => exact absurd rfl (hother _)
  · rintro rfl
    exact .same hother

theorem rereads_self_iff :
    Rereads nullValue nullValue ↔
      ∀ x, nullValue = some (.double x) → (Number.double x).reread? = some (.double x) := by
  by_cases hdouble : ∃ x, nullValue = some (.double x)
  · obtain ⟨x, rfl⟩ := hdouble
    simp [rereads_double_iff]
  · have hother := not_exists.mp hdouble
    rw [rereads_iff_eq hother]
    exact iff_of_true rfl fun x hx => absurd hx (hother x)

end NullValue

namespace Mapping

theorem declaredFormats_ofText {type : FieldType} {spec : Members} {formats : List DateFormat}
    (h : declaredFormats type spec = .ok formats) :
    ∀ format ∈ formats, DateFormat.ofText format.pattern = .ok format := by
  unfold declaredFormats at h
  split at h
  · obtain ⟨text, htext⟩ := dateFormatsOf_eq_ok h
    intro format hformat
    obtain ⟨piece, -, hpiece⟩ := exists_of_mem_right (mapM_eq_ok_iff.mp htext) format hformat
    exact DateFormat.ofText_pattern hpiece
  · split at h
    · cases h
    · cases h
      exact List.forall_mem_nil _

theorem fieldOf_formats {name declared : String} {spec : Members} {field : Field}
    (h : fieldOf name declared spec = .ok field) :
    ∀ format ∈ field.dateFormats, DateFormat.ofText format.pattern = .ok format := by
  obtain ⟨type, root, others, own, -, hown⟩ := assemble_of_fieldOf h
  obtain ⟨formats, isOpenEnded, nullValue, hformats, -, -, rfl⟩ := assemble_eq_ok hown
  exact declaredFormats_ofText hformats

theorem isRestorable {source : Json} {mapping : Mapping} (hnumbers : source.NumbersRepresented)
    (h : ofJson source = .ok mapping) : ∀ field ∈ mapping.fields, field.IsRestorable := by
  intro field hf
  refine ⟨?_, nullValue_isRepresented hnumbers h field hf⟩
  obtain ⟨own, hown, rfl⟩ := forall_fields (Q := fun _ => True) (fun _ => ⟨trivial, trivial⟩)
    (fun _ _ hfield => fieldOf_formats hfield) trivial h field hf
  split <;> exact hown

end Mapping

namespace Source

theorem decodeType_name (type : FieldType) :
    decodeChoice FieldType.ofName? (str (some type.name)) = .ok type := by
  cases type <;> rfl

theorem decodeKind_json (kind : VariantKind) : decodeKind (ofJson kind.json) = .ok kind := by
  cases kind with
  | epoch unit => cases unit <;> rfl
  | _ => rfl

theorem decodeVariant_json (variant : Variant) :
    decodeVariant (ofJson variant.json) = .ok variant := by
  obtain ⟨name, path, kind, analyzer⟩ := variant
  have hkind := decodeKind_json kind
  cases name <;> cases analyzer <;>
    simp [Variant.json, Json.ofText?, ofJson, ofMembers, decodeVariant, decodeRecord, fillMember,
      variantSlots, slot, decodeString, decodeOptional, hkind, finishVariant, Except.map, bind,
      Except.bind, pure, Except.pure]

theorem decodeNullValue_json {value : NullValue} (h : value.IsRepresented) :
    decodeOptional decodeNullValue (ofJson value.json) = .ok (some value) := by
  cases value with
  | integer i =>
    have hi : (Number.int i).int64? = some i := Number.int64?_eq_some_iff.mpr ⟨rfl, h⟩
    simp [NullValue.json, Json.ofInt, ofJson, decodeOptional, decodeNullValue, hi, Except.map]
  | _ => rfl

/-- A way to read what is written that reads texts, flags and variants as they are. Numbers it may
read in its own way. -/
structure ReadsPlainly (read : Json → Source) : Prop where
  str : ∀ text, read (.str text) = str (some text)
  bool : ∀ flag, read (.bool flag) = bool flag
  strings : ∀ texts : List String,
    read (.ofStrings texts) = arr false (texts.map fun text => Source.str (some text)) true
  variants : ∀ variants : List Variant,
    read (.arr (variants.map Variant.json)) =
      arr false (variants.map fun variant => ofJson variant.json) true

theorem readsPlainly_ofJson : ReadsPlainly ofJson where
  str _ := rfl
  bool _ := rfl
  strings texts := by
    rw [Json.ofStrings, ofJson, ofItems_eq, List.map_map]
    rfl
  variants variants := by
    rw [ofJson, ofItems_eq, List.map_map]
    rfl

theorem ofPrinted_variant (variant : Variant) :
    ofPrinted 2 variant.json = ofJson variant.json := by
  obtain ⟨name, path, kind, analyzer⟩ := variant
  cases name <;> cases kind <;> cases analyzer <;> rfl

theorem readsPlainly_ofPrinted : ReadsPlainly (ofPrinted 1) where
  str _ := rfl
  bool _ := rfl
  strings texts := by
    rw [Json.ofStrings, ofPrinted, ofPrintedItems_eq, List.map_map]
    rfl
  variants variants := by
    rw [ofPrinted, ofPrintedItems_eq, List.map_map]
    exact congrArg (arr false · true) (List.map_congr_left fun v _ => ofPrinted_variant v)

/-- A field of which the members are read in some way. -/
def fieldSource (field : Field) (read : Json → Source) : Source :=
  obj false (field.members.map fun member => (some member.1, read member.2)) true

theorem ofJson_json (field : Field) : ofJson field.json = fieldSource field ofJson := by
  rw [Field.json, ofJson, ofMembers_eq, fieldSource]

theorem ofPrinted_json (field : Field) :
    ofPrinted 0 field.json = fieldSource field (ofPrinted 1) := by
  rw [Field.json, ofPrinted, ofPrintedMembers_eq, fieldSource]
  rfl

/-- What is decoded in the place of a null value. -/
def decodeNullPart (read : Json → Source) :
    Option NullValue → Except DecodeFault (Option NullValue)
  | none => .ok none
  | some value => decodeOptional decodeNullValue (read value.json)

variable {read : Json → Source}

theorem decodeList_variants (hread : ReadsPlainly read) (variants : List Variant) :
    decodeList decodeVariant (read (.arr (variants.map Variant.json))) = .ok variants := by
  have hall : (variants.map fun variant => ofJson variant.json).mapM decodeVariant = .ok variants :=
    mapM_map_eq_ok fun variant _ => decodeVariant_json variant
  simp [hread.variants, decodeList, hall, bind, Except.bind, pure, Except.pure]

theorem decodeList_formats (hread : ReadsPlainly read) {formats : List DateFormat}
    (h : ∀ format ∈ formats, DateFormat.ofText format.pattern = .ok format) :
    decodeList decodeDateFormat (read (.ofStrings (formats.map DateFormat.pattern))) =
      .ok formats := by
  have hall : (formats.map fun format => Source.str (some format.pattern)).mapM decodeDateFormat =
      .ok formats := by
    refine mapM_map_eq_ok fun format hformat => ?_
    simp [decodeDateFormat, decodeString, h format hformat, bind, Except.bind, pure, Except.pure]
  simp [hread.strings, Function.comp_def, decodeList, hall, bind, Except.bind, pure, Except.pure]

theorem decodeField_fieldSource (hread : ReadsPlainly read) {field : Field}
    (hformats : ∀ format ∈ field.dateFormats, DateFormat.ofText format.pattern = .ok format) :
    decodeField (fieldSource field read) =
      (decodeNullPart read field.nullValue).map fun nullValue => some { field with nullValue } := by
  obtain ⟨name, type, rootVariant, others, formats, isOpenEnded, nullValue, isDefault⟩ := field
  have htype := decodeType_name type
  have hvariants := decodeList_variants hread (rootVariant :: others)
  have hdates := decodeList_formats hread hformats
  rw [List.map_cons] at hvariants
  unfold decodeField decodeRecord fieldSource Field.members Field.variants
  -- Formats and a null value are members only where there are any.
  rcases formats with - | ⟨format, formats⟩
  all_goals
    rcases nullValue with - | value
    · simp_all [hread.str, hread.bool, fillMember, fieldSlots, slot, decodeString, decodeBool,
        finishField, decodeNullPart, Except.map, bind, Except.bind, pure, Except.pure]
    · cases hnull : decodeOptional decodeNullValue (read value.json) <;>
        simp_all [hread.str, hread.bool, fillMember, fieldSlots, slot, decodeString, decodeBool,
          finishField, decodeNullPart, Except.map, bind, Except.bind, pure, Except.pure]

theorem decodeNullPart_ofJson {nullValue : Option NullValue}
    (h : ∀ value, nullValue = some value → value.IsRepresented) :
    decodeNullPart ofJson nullValue = .ok nullValue := by
  cases nullValue with
  | none => rfl
  | some value => exact decodeNullValue_json (h value rfl)

/-- A null value that is no double is read from its text as it is. -/
theorem ofPrinted_nullValue {value : NullValue} (h : value.IsRepresented)
    (hother : ∀ x, value ≠ .double x) (depth : Nat) :
    ofPrinted depth value.json = ofJson value.json := by
  cases value with
  | boolean b => rfl
  | text s => rfl
  | double x => exact absurd rfl (hother x)
  | integer i =>
    have hbounds : Number.leastInt64 ≤ i ∧ i ≤ Number.greatestInt64 := by
      simpa [NullValue.IsRepresented, Number.isInt64] using h
    have hrepresented : (Number.int i).IsRepresented :=
      ⟨hbounds.1, Int.le_trans hbounds.2 (by decide)⟩
    exact congrArg num (Number.reread?_int hrepresented)

theorem decodeNullPart_double_iff {x : Double} {found : Option NullValue} :
    decodeNullPart (ofPrinted 1) (some (.double x)) = .ok found ↔
      NullValue.Rereads (some (.double x)) found := by
  have hpart : decodeNullPart (ofPrinted 1) (some (.double x)) =
      decodeOptional decodeNullValue (num (Number.double x).reread?) := rfl
  rw [hpart, NullValue.rereads_double_iff]
  cases hread : (Number.double x).reread? with
  | none =>
    constructor
    · intro h
      cases h
    · rintro ⟨y, hy, -⟩
      cases hy
  | some n =>
    obtain ⟨y, rfl⟩ := Number.reread?_double hread
    constructor
    · intro h
      cases h
      exact ⟨y, rfl, rfl⟩
    · rintro ⟨z, hz, rfl⟩
      cases hz
      rfl

theorem decodeNullPart_ofPrinted_iff {nullValue found : Option NullValue}
    (h : ∀ value, nullValue = some value → value.IsRepresented) :
    decodeNullPart (ofPrinted 1) nullValue = .ok found ↔ NullValue.Rereads nullValue found := by
  by_cases hdouble : ∃ x, nullValue = some (.double x)
  · obtain ⟨x, rfl⟩ := hdouble
    exact decodeNullPart_double_iff
  · have hother := not_exists.mp hdouble
    have hpart : decodeNullPart (ofPrinted 1) nullValue = .ok nullValue := by
      cases nullValue with
      | none => rfl
      | some value =>
        have hvalue : ∀ x, value ≠ .double x := fun x hx => hother x (congrArg some hx)
        rw [decodeNullPart, ofPrinted_nullValue (h value rfl) hvalue]
        exact decodeNullValue_json (h value rfl)
    rw [hpart, Except.ok.injEq, NullValue.rereads_iff_eq hother, eq_comm]

end Source

namespace Field

open Source

variable {field : Field}

theorem decodeValue?_json (h : field.IsRestorable) :
    decodeValue? decodeField field.json = some (some field) := by
  rw [decodeValue?, toOption_eq_some_iff, ofJson_json,
    decodeField_fieldSource readsPlainly_ofJson h.formats, decodeNullPart_ofJson h.nullValue]
  rfl

/-- From the text of a field come the fields that differ from it in what the null value becomes. -/
theorem decodeText?_json_iff (h : field.IsRestorable) {found : Option Field} :
    decodeText? decodeField field.json.compact = some found ↔
      ∃ nullValue, NullValue.Rereads field.nullValue nullValue ∧
        found = some { field with nullValue } := by
  have hread : decodeText? decodeField field.json.compact =
      (decodeField (fieldSource field (ofPrinted 1))).toOption := by
    rw [decodeText?, ofText_compact, ofPrinted_json]
    rfl
  rw [hread, toOption_eq_some_iff, decodeField_fieldSource readsPlainly_ofPrinted h.formats,
    map_eq_ok_iff]
  simp only [decodeNullPart_ofPrinted_iff h.nullValue, eq_comm]

theorem decodeText?_json_self_iff (h : field.IsRestorable) :
    decodeText? decodeField field.json.compact = some (some field) ↔
      ∀ x, field.nullValue = some (.double x) →
        (Number.double x).reread? = some (.double x) := by
  rw [decodeText?_json_iff h, ← NullValue.rereads_self_iff]
  constructor
  · rintro ⟨nullValue, hreads, heq⟩
    have hsame : field.nullValue = nullValue := congrArg Field.nullValue (Option.some_inj.mp heq)
    rwa [← hsame] at hreads
  · exact fun hreads => ⟨field.nullValue, hreads, rfl⟩

end Field

namespace Mapping

open Source

/-- Every field of a mapping is decoded from the value that it is written as. From its text it comes
back too, with a null value that is a double as that is read from its own text. -/
theorem fields_come_back {source : Json} {mapping : Mapping} (hnumbers : source.NumbersRepresented)
    (h : ofJson source = .ok mapping) : ∀ field ∈ mapping.fields,
      decodeValue? decodeField field.json = some (some field) ∧
      (∀ found, decodeText? decodeField field.json.compact = some found ↔
        ∃ nullValue, NullValue.Rereads field.nullValue nullValue ∧
          found = some { field with nullValue }) ∧
      (decodeText? decodeField field.json.compact = some (some field) ↔
        ∀ x, field.nullValue = some (.double x) →
          (Number.double x).reread? = some (.double x)) := by
  intro field hfield
  have hrestorable := isRestorable hnumbers h field hfield
  exact ⟨Field.decodeValue?_json hrestorable, fun _ => Field.decodeText?_json_iff hrestorable,
    Field.decodeText?_json_self_iff hrestorable⟩

def storedSource : Json :=
  .obj [("properties", .obj
    [("seen", .obj [("type", .str "date"), ("format", .str " yyyy-MM-dd || epoch_millis ")]),
      ("load", .obj [("type", .str "double"), ("null_value", .num (.int 2))]),
      ("state", .obj [("type", .str "keyword"), ("null_value", .str "true")])])]

def storedMapping : Mapping where
  fields :=
    [{ name := "seen", type := .date, rootVariant := .root "seen" .date none, otherVariants := []
       dateFormats := [⟨"yyyy-MM-dd", .layout "%Y-%m-%d".toList false false⟩,
        ⟨"epoch_millis", .epochMillis⟩] },
     { name := "load", type := .double, rootVariant := .root "load" .numeric none
       otherVariants := [], nullValue := some (.double (Double.ofInt 2)) },
     { name := "state", type := .keyword, rootVariant := .root "state" .exact none
       otherVariants := [], nullValue := some (.text "true") }]
  defaultColumns := []
  versionTag := none

/-- Formats with blanks around them, an integer that stands for a double, and a text that looks like
a truth value. -/
theorem storedMapping_comes_back :
    storedSource.NumbersRepresented ∧ ofJson storedSource = .ok storedMapping ∧
      ∀ field ∈ storedMapping.fields,
        decodeValue? decodeField field.json = some (some field) ∧
          decodeText? decodeField field.json.compact = some (some field) := by
  have hnumbers : storedSource.NumbersRepresented := by decide
  have hmapping : ofJson storedSource = .ok storedMapping := by decide +kernel
  have hdoubles : ∀ field ∈ storedMapping.fields, ∀ x, field.nullValue = some (.double x) →
      (Number.double x).reread? = some (.double x) := by
    intro field hfield x hx
    simp only [storedMapping, List.mem_cons, List.not_mem_nil, or_false] at hfield
    rcases hfield with rfl | rfl | rfl
    · cases hx
    · cases hx
      decide +kernel
    · cases hx
  refine ⟨hnumbers, hmapping, fun field hfield => ?_⟩
  obtain ⟨hvalue, -, htext⟩ := fields_come_back hnumbers hmapping field hfield
  exact ⟨hvalue, htext.mpr (hdoubles field hfield)⟩

/-- The null value is written with all its digits, which stand for the double nearest to three times
ten to the power of 23. -/
def roundedSource : String :=
  "\x7b\"properties\":\x7b\"load\":\x7b\"type\":\"double\"," ++
    "\"null_value\":300000000000000000000000\x7d\x7d\x7d"

def roundedField : Field where
  name := "load"
  type := .double
  rootVariant := .root "load" .numeric none
  otherVariants := []
  nullValue := some (.double ⟨false, 4958396687196483698⟩)

/-- The null value is written as `3e+23`, of which the double below is read. -/
theorem roundedField_differs :
    ofText roundedSource = .ok ⟨[roundedField], [], none⟩ ∧
      roundedField.nullValue.map (fun value => value.json.compact) = some "3e+23" ∧
      decodeText? decodeField roundedField.json.compact =
        some (some { roundedField with
          nullValue := some (.double ⟨false, 4958396687196483697⟩) }) ∧
      decodeText? decodeField roundedField.json.compact ≠ some (some roundedField) := by
  have hrestorable : roundedField.IsRestorable := by
    refine ⟨List.forall_mem_nil _, ?_⟩
    rintro value ⟨⟩
    rfl
  have hreread : (Number.double ⟨false, 4958396687196483698⟩).reread? =
      some (.double ⟨false, 4958396687196483697⟩) := by decide +kernel
  have hread : decodeText? decodeField roundedField.json.compact = _ :=
    (Field.decodeText?_json_iff hrestorable).mpr ⟨_, .double hreread, rfl⟩
  refine ⟨by decide +kernel, by decide +kernel, hread, ?_⟩
  rw [hread]
  decide

end Mapping

end ReportSearch
