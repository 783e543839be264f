import Mathlib.Data.List.TakeWhile
import ReportSearch.Proofs.Catalog.NullValue
import ReportSearch.Proofs.Rule.Checked
import ReportSearch.Proofs.Rule.Operand

/-!
# What accepted rules carry

A rule that is accepted has a field of the mapping, an operator that is legal for it, and an operand
of the form that the operator takes: every scalar is of the type of the field, whether it was
submitted or stands in for a missing value. Only what was submitted is held to 32 bits.
-/

set_option autoImplicit false

namespace ReportSearch

open Attempts

theorem Text.exists_not_blank {s : String} (h : (Text.trim s).isEmpty = false) :
    ∃ c ∈ s.toList, Text.isBlank c = false := by
  by_contra hnone
  have hblank : ∀ c ∈ s.toList, Text.isBlank c = true := by
    intro c hc
    by_contra hne
    exact hnone ⟨c, hc, Bool.eq_false_iff.mpr hne⟩
  have htrim : Text.trim s = "" := by
    rw [Text.trim, Text.trimChars, Text.trimStart, List.dropWhile_eq_nil_iff.mpr hblank]
    rfl
  rw [htrim] at h
  cases h

namespace Scalar

inductive IsOf : FieldType → Scalar → Prop where
  | string (s : String) : IsOf .string (text s)
  | keyword (s : String) : IsOf .keyword (text s)
  | boolean (b : Bool) : IsOf .boolean (boolean b)
  | integer (i : Int) : IsOf .integer (integer i)
  | long (i : Int) : IsOf .long (integer i)
  | double {x : Double} (hfinite : x.isFinite = true) : IsOf .double (double x)
  | date (t : Instant) : IsOf .date (date t)

/-- A scalar that a submitted value is read as. -/
structure IsRead (field : Field) (value : Json) (scalar : Scalar) : Prop where
  read : ofField field value = .ok scalar
  isOf : scalar.IsOf field.type
  fits : ∀ i, field.type = .integer → scalar = .integer i → -0x80000000 ≤ i ∧ i < 0x80000000

variable {field : Field} {value : Json} {scalar : Scalar}

theorem Suits.isOf (h : scalar.Suits field)
    (hfinite : ∀ x, scalar = double x → x.isFinite = true) : scalar.IsOf field.type := by
  cases scalar with
  | text s =>
    rcases h with htype | htype <;> rw [htype]
    · exact .string s
    · exact .keyword s
  | integer i =>
    rcases h with htype | htype <;> rw [htype]
    · exact .integer i
    · exact .long i
  | double x =>
    have htype : field.type = .double := h
    rw [htype]
    exact .double (hfinite x rfl)
  | boolean b =>
    have htype : field.type = .boolean := h
    rw [htype]
    exact .boolean b
  | date t =>
    rw [h.1]
    exact .date t

theorem isFinite_of_ofField {x : Double} (h : ofField field value = .ok (double x)) :
    x.isFinite = true := by
  have htype : field.type = .double := ofField_suits h
  simp only [ofField, htype] at h
  split at h
  · rename_i y hy
    cases h
    unfold readDouble? at hy
    exact (Option.filter_eq_some_iff.mp hy).2
  · cases h

theorem fits_of_ofField {i : Int} (htype : field.type = .integer)
    (h : ofField field value = .ok (integer i)) : -0x80000000 ≤ i ∧ i < 0x80000000 := by
  simp only [ofField, htype] at h
  split at h
  · split at h
    · rename_i hrange
      cases h
      simpa [isInt32] using hrange
    · cases h
  · cases h

theorem isRead_of_ofField (h : ofField field value = .ok scalar) :
    IsRead field value scalar where
  read := h
  isOf := by
    refine (ofField_suits h).isOf ?_
    rintro x rfl
    exact isFinite_of_ofField h
  fits := by
    rintro i htype rfl
    exact fits_of_ofField htype h

theorem isOf_ofNullValue {null : NullValue} (hof : null.IsOf field.type)
    (hrep : null.IsRepresented) : (ofNullValue null).IsOf field.type := by
  refine (suits_ofNullValue hof).isOf fun x hx => ?_
  cases null with
  | double y =>
    cases hx
    exact hrep
  | _ => cases hx

/-- The scalar of a rule with one value, or with none. -/
inductive StandsFor (field : Field) : Json → Scalar → Prop where
  | submitted {value : Json} {scalar : Scalar} (hread : scalar.IsRead field value) :
      StandsFor field value scalar
  | missing {null : NullValue} (hnull : field.nullValue = some null)
      (hof : (ofNullValue null).IsOf field.type) : StandsFor field .null (ofNullValue null)

theorem StandsFor.isOf (h : StandsFor field value scalar) : scalar.IsOf field.type := by
  cases h with
  | submitted hread => exact hread.isOf
  | missing hnull hof => exact hof

theorem single_standsFor (hf : field.WellFormed)
    (hnulls : ∀ null, field.nullValue = some null → null.IsRepresented)
    (h : single field value = .ok scalar) : StandsFor field value scalar := by
  unfold single at h
  split at h
  · split at h
    · rename_i null hnull
      cases h
      exact .missing hnull (isOf_ofNullValue (hf.nullValue_isOf null hnull) (hnulls null hnull))
    · cases h
  · cases h
  · cases h
  · exact .submitted (isRead_of_ofField h)

/-- Words that are searched for are a text, and not a blank one. -/
theorem exists_not_blank_of_isOf {op : Operator} (hop : op = .contains ∨ op = .startsWith)
    (hlegal : op.isLegalFor field.type = true) (hof : scalar.IsOf field.type)
    (hblank : scalar.isBlankText = false) :
    ∃ s, scalar = .text s ∧ ∃ c ∈ s.toList, Text.isBlank c = false := by
  generalize field.type = type at hlegal hof
  cases hof with
  | string s => exact ⟨s, rfl, Text.exists_not_blank hblank⟩
  | keyword s => exact ⟨s, rfl, Text.exists_not_blank hblank⟩
  | _ => rcases hop with rfl | rfl <;> cases hlegal

end Scalar

namespace Operand

/-- The operand of an operator, as it comes from the value of a rule. -/
inductive ComesFrom (field : Field) : Operator → Json → Operand → Prop where
  | absent (value : Json) : ComesFrom field .isPresent value .absent
  | list {items : List Json} {scalars : List Scalar} (hne : items ≠ [])
      (hall : List.Forall₂ (fun item scalar => scalar.IsRead field item) items scalars) :
      ComesFrom field .isIn (.arr items) (.list scalars)
  | pattern {text : String} (hne : text ≠ "") :
      ComesFrom field .regex (.str text) (.pattern text)
  | words {op : Operator} {value : Json} {s : String} (hop : op = .contains ∨ op = .startsWith)
      (hstands : Scalar.StandsFor field value (.text s))
      (hblank : ∃ c ∈ s.toList, Text.isBlank c = false) :
      ComesFrom field op value (.single (.text s))
  | compared {op : Operator} {value : Json} {scalar : Scalar}
      (hop : op.Compares) (hstands : Scalar.StandsFor field value scalar) :
      ComesFrom field op value (.single scalar)

variable {field : Field} {op : Operator} {value : Json} {operand : Operand}

theorem checkPattern_eq_ok_iff {text : String} :
    checkPattern value = .ok text ↔
      value = .str text ∧ text ≠ "" ∧ Pattern.isExpression text.toList = true ∧
        Pattern.unsupported? text = none := by
  constructor
  · intro h
    unfold checkPattern at h
    split at h
    · split at h
      · cases h
      · rename_i hne
        split at h
        · cases h
        · rename_i hexpression
          split at h
          · cases h
          · rename_i hsupported
            cases h
            exact ⟨rfl, by simpa using hne, by simpa using hexpression, hsupported⟩
    · cases h
  · rintro ⟨rfl, hne, hexpression, hsupported⟩
    simp [checkPattern, hne, hexpression, hsupported]

theorem ofValue_comesFrom (hf : field.WellFormed)
    (hnulls : ∀ null, field.nullValue = some null → null.IsRepresented)
    (hlegal : op.isLegalFor field.type = true) (h : ofValue field op value = .ok operand) :
    operand.ComesFrom field op value := by
  have hwords : op = .contains ∨ op = .startsWith → operand.ComesFrom field op value := by
    intro hop
    obtain ⟨scalar, hscalar, hblank, rfl⟩ := ofValue_words hop h
    have hstands := Scalar.single_standsFor hf hnulls hscalar
    obtain ⟨s, rfl, hs⟩ := Scalar.exists_not_blank_of_isOf hop hlegal hstands.isOf hblank
    exact .words hop hstands hs
  have hcompared : op.Compares → operand.ComesFrom field op value := by
    intro hop
    rw [ofValue_compares hop, map_eq_ok_iff] at h
    obtain ⟨scalar, hscalar, rfl⟩ := h
    exact .compared hop (Scalar.single_standsFor hf hnulls hscalar)
  cases op with
  | isPresent =>
    cases h
    exact .absent value
  | isIn =>
    obtain ⟨scalars, hscalars, rfl⟩ := map_eq_ok_iff.mp h
    obtain ⟨items, rfl, hne, hall⟩ := Scalar.listOf_eq_ok hscalars
    exact .list hne (hall.imp fun _ _ hitem => Scalar.isRead_of_ofField hitem)
  | regex =>
    simp only [ofValue] at h
    split at h
    · rename_i text htext
      cases h
      obtain ⟨rfl, hne, -⟩ := checkPattern_eq_ok_iff.mp htext
      exact .pattern hne
    · cases h
  | contains => exact hwords (Or.inl rfl)
  | startsWith => exact hwords (Or.inr rfl)
  | equals => exact hcompared (Or.inl rfl)
  | greaterThan => exact hcompared (Or.inr rfl)
  | greaterThanOrEqual => exact hcompared (Or.inr rfl)
  | lessThan => exact hcompared (Or.inr rfl)
  | lessThanOrEqual => exact hcompared (Or.inr rfl)

end Operand

namespace Rule

/-- An accepted rule has the field that the mapping declares under its name, the operator that it
names, legal for the field, and an operand that comes from its value. -/
theorem accepted_sound {source : Json} {mapping : Mapping} {version : Nat} {rule : Rule}
    {checked : CheckedRule} (hkeys : source.KeysDistinct) (hnumbers : source.NumbersRepresented)
    (hread : Mapping.ofJson source = .ok mapping)
    (h : check (Catalog.ofMapping mapping version) rule = .ok checked) :
    checked.field ∈ mapping.fields ∧ checked.field.name = rule.field ∧
      Operator.ofText? rule.operator = some checked.operator ∧
      checked.operator.isLegalFor checked.field.type = true ∧
      checked.isNegated = rule.isNegated ∧
      checked.operand.ComesFrom checked.field checked.operator rule.value := by
  obtain ⟨hfield, hop, hlegal, hoperand, hnegated⟩ := check_eq_ok h
  have hf := Catalog.lookup?_wellFormed hkeys hread hfield
  have hnulls : ∀ null, checked.field.nullValue = some null → null.IsRepresented :=
    fun null hnull => Catalog.lookup?_nullValue_isRepresented hnumbers hread hfield hnull
  exact ⟨Catalog.mem_of_lookup? hfield, name_of_check h, hop, hlegal, hnegated,
    Operand.ofValue_comesFrom hf hnulls hlegal hoperand⟩

/-- A negated rule on two numbers, one of them as a text. -/
def coresRule : Rule where
  field := "system.cores"
  operator := " in "
  value := .arr [.num (.int 2), .str " 4 "]
  isNegated := true

def coresField : Field where
  name := "system.cores"
  type := .integer
  rootVariant := .root "system.cores" .numeric none
  otherVariants := []
  nullValue := some (.integer 1)

def checkedCoresRule : CheckedRule where
  field := coresField
  operator := .isIn
  operand := .list [.integer 2, .integer 4]
  isNegated := true

theorem coresRule_sound :
    Mapping.sampleSource.KeysDistinct ∧ Mapping.sampleSource.NumbersRepresented ∧
      Mapping.ofJson Mapping.sampleSource = .ok Mapping.sample ∧
      check (Catalog.ofMapping Mapping.sample 1) coresRule = .ok checkedCoresRule ∧
      coresField ∈ Mapping.sample.fields ∧ coresField.name = coresRule.field ∧
      Operator.ofText? coresRule.operator = some .isIn ∧
      Operator.isIn.isLegalFor coresField.type = true ∧ coresRule.isNegated = true ∧
      (Operand.list [.integer 2, .integer 4]).ComesFrom coresField .isIn coresRule.value := by
  have hnumbers : Mapping.sampleSource.NumbersRepresented := by decide
  have hcheck : check (Catalog.ofMapping Mapping.sample 1) coresRule = .ok checkedCoresRule := by
    decide +kernel
  obtain ⟨hfield, hname, hop, hlegal, hnegated, hoperand⟩ :=
    accepted_sound Mapping.keysDistinct_sampleSource hnumbers Mapping.ofJson_sampleSource hcheck
  exact ⟨Mapping.keysDistinct_sampleSource, hnumbers, Mapping.ofJson_sampleSource, hcheck, hfield,
    hname, hop, hlegal, hnegated.symm, hoperand⟩

end Rule

end ReportSearch
