import ReportSearch.Proofs.Catalog.NullValue
import ReportSearch.Proofs.Rule.Checked

/-!
# Rules without a value

A rule without a value takes the null value of its field as the mapping has it, while the same value
in a rule is read like any other. Both become one checked rule unless the field keeps 32 bits and
its null value takes more: then only the rule without a value is accepted.
-/

set_option autoImplicit false

namespace ReportSearch

open Attempts

/-- An integer of more than 32 bits, on a field that keeps 32. -/
def NullValue.Overflows (null : NullValue) (type : FieldType) : Prop :=
  type = .integer ∧ ∃ i, null = .integer i ∧ ¬(-0x80000000 ≤ i ∧ i < 0x80000000)

/-- Operators that compare with one value; the others take none, a list or a pattern. -/
def Operator.takesOne : Operator → Bool
  | isPresent | isIn | regex => false
  | _ => true

namespace Scalar

variable {field : Field} {null : NullValue}

theorem single_json (field : Field) (null : NullValue) :
    single field null.json = ofField field null.json := by
  cases null <;> rfl

theorem isInt32_iff {i : Int} : isInt32 i = true ↔ -0x80000000 ≤ i ∧ i < 0x80000000 := by
  simp [isInt32]

theorem readInteger?_json {i : Int} (h : Number.isInt64 i = true) :
    readInteger? (.ofInt i) = some i :=
  Number.int64?_eq_some_iff.mpr ⟨rfl, h⟩

theorem ofField_json (hof : null.IsOf field.type) (hrep : null.IsRepresented)
    (hfits : ¬null.Overflows field.type) : ofField field null.json = .ok (ofNullValue null) := by
  cases null with
  | boolean b =>
    have htype : field.type = .boolean := hof
    simp only [ofField, htype, NullValue.json, readBool?]
    rfl
  | text s =>
    rcases hof with htype | htype <;> simp only [ofField, htype] <;> rfl
  | double x =>
    have htype : field.type = .double := hof
    have hread : readDouble? (.ofDouble x) = some x := by
      have hfinite : x.isFinite = true := hrep
      simp [readDouble?, Json.ofDouble, Number.toDouble, hfinite]
    simp only [ofField, htype, NullValue.json, hread]
    rfl
  | integer i =>
    have hread := readInteger?_json hrep
    rcases hof with htype | htype
    · have hrange : isInt32 i = true := by
        rw [isInt32_iff]
        by_contra hwide
        exact hfits ⟨htype, i, rfl, hwide⟩
      simp only [ofField, htype, NullValue.json, hread, hrange, if_true]
      rfl
    · simp only [ofField, htype, NullValue.json, hread]
      rfl

theorem ofField_json_of_overflows (hrep : null.IsRepresented) (h : null.Overflows field.type) :
    ofField field null.json = .error (misfit field null.json "32-bit integer") := by
  obtain ⟨htype, i, rfl, hwide⟩ := h
  have hread := readInteger?_json hrep
  have hrange : isInt32 i = false := Bool.eq_false_iff.mpr (mt isInt32_iff.mp hwide)
  simp only [ofField, htype, NullValue.json, hread, hrange, Bool.false_eq_true, if_false]

theorem single_null (h : field.nullValue = some null) :
    single field .null = .ok (ofNullValue null) := by
  simp only [single, h]

end Scalar

namespace Operand

variable {field : Field} {op : Operator} {value other : Json}

theorem ofValue_congr (hop : op.takesOne = true)
    (h : Scalar.single field value = Scalar.single field other) :
    ofValue field op value = ofValue field op other := by
  cases op with
  | isPresent => cases hop
  | isIn => cases hop
  | regex => cases hop
  | _ => simp only [ofValue, h]

theorem ofValue_of_error (hop : op.takesOne = true) {fault : QueryFault}
    (h : Scalar.single field value = .error fault) : ofValue field op value = .error fault := by
  cases op with
  | isPresent => cases hop
  | isIn => cases hop
  | regex => cases hop
  | contains => simp only [ofValue, h]
  | startsWith => simp only [ofValue, h]
  | _ =>
    simp only [ofValue, h]
    rfl

theorem ofValue_of_ok (hop : op.takesOne = true) {scalar : Scalar}
    (h : Scalar.single field value = .ok scalar) (hblank : scalar.isBlankText = false) :
    ofValue field op value = .ok (.single scalar) := by
  cases op with
  | isPresent => cases hop
  | isIn => cases hop
  | regex => cases hop
  | contains => simp [ofValue, h, hblank]
  | startsWith => simp [ofValue, h, hblank]
  | _ =>
    simp only [ofValue, h]
    rfl

end Operand

namespace Rule

/-- A rule whose field and operator are known is as good as its operand. -/
theorem check_eq {catalog : Catalog} (rule : Rule) {field : Field} {op : Operator}
    (hfield : catalog.lookup? rule.field = some field)
    (hop : Operator.ofText? rule.operator = some op) :
    check catalog rule =
      if op.isLegalFor field.type then
        (Operand.ofValue field op rule.value).map fun operand =>
          { field, operator := op, operand, isNegated := rule.isNegated }
      else .error (.illegalOperator field.name op field.type) := by
  simp only [check, hfield, hop]

/-- A rule without a value is checked like the rule that submits the null value of the field,
exactly when the operator is of no use there anyway or the field has room for the value. -/
theorem check_null_iff {source : Json} {mapping : Mapping} {version : Nat} {rule : Rule}
    {field : Field} {null : NullValue} {op : Operator} (hkeys : source.KeysDistinct)
    (hnumbers : source.NumbersRepresented) (hread : Mapping.ofJson source = .ok mapping)
    (hfield : (Catalog.ofMapping mapping version).lookup? rule.field = some field)
    (hnull : field.nullValue = some null) (hop : Operator.ofText? rule.operator = some op)
    (hone : op.takesOne = true) :
    (∀ checked,
      check (Catalog.ofMapping mapping version) { rule with value := .null } = .ok checked ↔
        check (Catalog.ofMapping mapping version) { rule with value := null.json } = .ok checked) ↔
      ¬(op.isLegalFor field.type = true ∧ null.Overflows field.type) := by
  have hof := (Catalog.lookup?_wellFormed hkeys hread hfield).nullValue_isOf null hnull
  have hrep := Catalog.lookup?_nullValue_isRepresented hnumbers hread hfield hnull
  have hmissing := Scalar.single_null hnull
  rw [check_eq { rule with value := .null } hfield hop,
    check_eq { rule with value := null.json } hfield hop]
  by_cases hlegal : op.isLegalFor field.type = true
  · rw [if_pos hlegal, if_pos hlegal]
    by_cases hover : null.Overflows field.type
    · refine iff_of_false ?_ (not_not_intro ⟨hlegal, hover⟩)
      intro hagree
      have hgiven : Scalar.single field null.json = _ := (Scalar.single_json field null).trans
        (Scalar.ofField_json_of_overflows hrep hover)
      have hblank : (Scalar.ofNullValue null).isBlankText = false := by
        obtain ⟨-, i, rfl, -⟩ := hover
        rfl
      rw [Operand.ofValue_of_error hone hgiven] at hagree
      rw [Operand.ofValue_of_ok hone hmissing hblank] at hagree
      cases (hagree _).mp rfl
    · refine iff_of_true ?_ fun h => hover h.2
      intro checked
      rw [Operand.ofValue_congr hone (hmissing.trans ((Scalar.single_json field null).trans
        (Scalar.ofField_json hof hrep hover)).symm)]
  · rw [if_neg hlegal, if_neg hlegal]
    exact iff_of_true (fun checked => Iff.rfl) fun h => hlegal h.1

/-- A field of 32 bits whose null value takes 33. -/
def wideSource : Json :=
  .obj [("properties", .obj [("n", .obj [("type", .str "integer"),
    ("null_value", .num (.int 5000000000))])])]

def wideField : Field where
  name := "n"
  type := .integer
  rootVariant := .root "n" .numeric none
  otherVariants := []
  nullValue := some (.integer 5000000000)

def wideMapping : Mapping := ⟨[wideField], [], none⟩

def wideRule : Rule where
  field := "n"
  operator := "="

theorem ofJson_wideSource : Mapping.ofJson wideSource = .ok wideMapping := by decide +kernel

/-- The rule does not come to the same with its value and without it. -/
theorem wideRule_differs :
    wideSource.KeysDistinct ∧ wideSource.NumbersRepresented ∧
      Mapping.ofJson wideSource = .ok wideMapping ∧
      (Catalog.ofMapping wideMapping 1).lookup? wideRule.field = some wideField ∧
      wideField.nullValue = some (.integer 5000000000) ∧
      Operator.ofText? wideRule.operator = some .equals ∧ Operator.equals.takesOne = true ∧
      ¬∀ checked, check (Catalog.ofMapping wideMapping 1) { wideRule with value := .null } =
          .ok checked ↔
        check (Catalog.ofMapping wideMapping 1)
          { wideRule with value := NullValue.json (.integer 5000000000) } = .ok checked := by
  have hkeys : wideSource.KeysDistinct := by decide
  have hnumbers : wideSource.NumbersRepresented := by decide
  have hfield : (Catalog.ofMapping wideMapping 1).lookup? wideRule.field = some wideField := by
    decide +kernel
  have hop : Operator.ofText? wideRule.operator = some .equals := by decide +kernel
  refine ⟨hkeys, hnumbers, ofJson_wideSource, hfield, rfl, hop, rfl, ?_⟩
  rw [check_null_iff hkeys hnumbers ofJson_wideSource hfield rfl hop rfl, not_not]
  exact ⟨rfl, rfl, 5000000000, rfl, by decide⟩

end Rule

end ReportSearch
