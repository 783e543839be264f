import ReportSearch.Proofs.Catalog.WellFormed
import ReportSearch.Proofs.Rule.Checked
import ReportSearch.Proofs.Rule.Operand
import ReportSearch.Proofs.Time.Reading

/-!
# Rules that bound dates

A rule that is not negated bounds its field by the instant that its value is read as: from one side
where it is a range, and from both where it asks for equality. No rule whose value is missing does,
because no null value is a date.
-/

set_option autoImplicit false

namespace ReportSearch

open Attempts

namespace Operator

def fromBelow : List Operator := [greaterThan, greaterThanOrEqual, equals]

def fromAbove : List Operator := [lessThan, lessThanOrEqual, equals]

theorem mem_fromBelow_iff {op : Operator} : op ∈ fromBelow ↔ op.setsLowerBound = true := by
  cases op <;> decide

theorem mem_fromAbove_iff {op : Operator} : op ∈ fromAbove ↔ op.setsUpperBound = true := by
  cases op <;> decide

theorem compares_of_mem_fromBelow {op : Operator} (h : op ∈ fromBelow) : op.Compares := by
  revert h
  unfold Compares
  cases op <;> decide

theorem compares_of_mem_fromAbove {op : Operator} (h : op ∈ fromAbove) : op.Compares := by
  revert h
  unfold Compares
  cases op <;> decide

end Operator

/-- A rule on a field, not negated, with one of some operators and an instant as its value. -/
structure Rule.Sets (field : Field) (ops : List Operator) (rule : Rule) (t : Instant) : Prop where
  affirmed : rule.isNegated = false
  named : rule.field = field.name
  operator : ∃ op ∈ ops, Operator.ofText? rule.operator = some op
  value : Scalar.readDate? field.dateFormats rule.value = some t

namespace Scalar

variable {field : Field} {value : Json} {t : Instant}

theorem ofField_eq_date_iff :
    ofField field value = .ok (.date t) ↔
      field.type = .date ∧ readDate? field.dateFormats value = some t := by
  constructor
  · intro h
    have htype : field.type = .date := (ofField_suits h).1
    refine ⟨htype, ?_⟩
    simp only [ofField, htype] at h
    split at h
    · rename_i u hu
      cases h
      exact hu
    · cases h
  · rintro ⟨htype, hread⟩
    simp only [ofField, htype, hread]

/-- No null value is a date, so a date was submitted. -/
theorem single_eq_date_iff :
    single field value = .ok (.date t) ↔
      field.type = .date ∧ readDate? field.dateFormats value = some t := by
  cases value with
  | null =>
    refine iff_of_false ?_ (by simp [readDate?])
    intro h
    simp only [single] at h
    split at h
    · rename_i null hnull
      cases null <;> cases h
    · cases h
  | arr items => exact iff_of_false (by simp [single]) (by simp [readDate?])
  | obj members => exact iff_of_false (by simp [single]) (by simp [readDate?])
  | bool b => exact (ofField_eq_date_iff : ofField field (.bool b) = _ ↔ _)
  | num n => exact (ofField_eq_date_iff : ofField field (.num n) = _ ↔ _)
  | str s => exact (ofField_eq_date_iff : ofField field (.str s) = _ ↔ _)

end Scalar

theorem Operand.ofValue_eq_date_iff {field : Field} {op : Operator} (hop : op.Compares)
    {value : Json} {t : Instant} :
    ofValue field op value = .ok (.single (.date t)) ↔
      field.type = .date ∧ Scalar.readDate? field.dateFormats value = some t := by
  rw [ofValue_compares hop, map_eq_ok_iff, ← Scalar.single_eq_date_iff]
  constructor
  · rintro ⟨scalar, hscalar, heq⟩
    cases heq
    exact hscalar
  · intro h
    exact ⟨_, h, rfl⟩

theorem Scalar.readDate?_nil (value : Json) : readDate? [] value = none := by
  cases value <;> rfl

theorem Scalar.readDate?_isRepresented {formats : List DateFormat} {value : Json} {t : Instant}
    (h : readDate? formats value = some t) : t.IsRepresented := by
  obtain ⟨format, -, s, hread⟩ := readDate?_eq_some h
  exact DateFormat.read?_isRepresented hread

namespace Rule

variable {catalog : Catalog} {rule : Rule} {checked : CheckedRule} {field : Field}
  {ops : List Operator} {t : Instant}

/-- Only a date field has formats to read an instant in. -/
theorem Sets.type_eq (hf : field.WellFormed) (h : rule.Sets field ops t) : field.type = .date := by
  rw [← hf.dateFormats_iff]
  intro hnil
  have hvalue := h.value
  rw [hnil, Scalar.readDate?_nil] at hvalue
  cases hvalue

theorem sets_iff_of_check (hf : field.WellFormed) (hfield : catalog.lookup? field.name = some field)
    (hops : ∀ op ∈ ops, op.Compares) (h : check catalog rule = .ok checked) :
    rule.Sets field ops t ↔ checked.isNegated = false ∧ checked.field.name = field.name ∧
      checked.operator ∈ ops ∧ checked.operand = .single (.date t) := by
  obtain ⟨hfound, hop, -, hoperand, hnegated⟩ := check_eq_ok h
  have hname := name_of_check h
  have hsame : rule.field = field.name → checked.field = field := by
    intro heq
    rw [heq, hfield] at hfound
    exact (Option.some.inj hfound).symm
  constructor
  · intro hsets
    have hdate := hsets.type_eq hf
    obtain ⟨haffirmed, hnamed, ⟨op, hmem, hread⟩, hvalue⟩ := hsets
    obtain rfl := hsame hnamed
    obtain rfl : checked.operator = op := Option.some.inj (hop.symm.trans hread)
    have hdated := (Operand.ofValue_eq_date_iff (hops _ hmem)).mpr ⟨hdate, hvalue⟩
    exact ⟨hnegated.trans haffirmed, rfl, hmem, Except.ok.inj (hoperand.symm.trans hdated)⟩
  · rintro ⟨haffirmed, hnamed, hmem, hdated⟩
    obtain rfl := hsame (hname.symm.trans hnamed)
    rw [hdated] at hoperand
    exact ⟨hnegated.symm.trans haffirmed, hname.symm, ⟨_, hmem, hop⟩,
      ((Operand.ofValue_eq_date_iff (hops _ hmem)).mp hoperand).2⟩

end Rule

end ReportSearch
