import ReportSearch.Proofs.Attempts
import ReportSearch.Proofs.Catalog.WellFormed
import ReportSearch.Rule.Check

/-!
# Operands of checked rules

An operand has the shape that its operator asks for, and the scalars in it suit the field: they are
of its type, and a date was read in one of its formats.
-/

set_option autoImplicit false

namespace ReportSearch

open Attempts

namespace Scalar

def Suits (field : Field) : Scalar → Prop
  | text _ => field.type = .string ∨ field.type = .keyword
  | integer _ => field.type = .integer ∨ field.type = .long
  | double _ => field.type = .double
  | boolean _ => field.type = .boolean
  | date t => field.type = .date ∧ ∃ format ∈ field.dateFormats, ∃ s, format.read? s = some t

variable {field : Field} {value : Json} {scalar : Scalar}

theorem Suits.eq_date (h : scalar.Suits field) (ht : field.type = .date) :
    ∃ t, scalar = date t := by
  cases scalar with
  | date t => exact ⟨t, rfl⟩
  | _ => simp [Suits, ht] at h

theorem suits_ofNullValue {null : NullValue} (h : null.IsOf field.type) :
    (ofNullValue null).Suits field := by
  cases null <;> exact h

theorem readDate?_eq_some {formats : List DateFormat} {t : Instant}
    (h : readDate? formats value = some t) :
    ∃ format ∈ formats, ∃ s, format.read? s = some t := by
  unfold readDate? at h
  split at h
  · rename_i s
    obtain ⟨format, hformat, hread⟩ := List.exists_of_findSome?_eq_some h
    exact ⟨format, hformat, s, hread⟩
  · rename_i n
    obtain ⟨format, hformat, hread⟩ := List.exists_of_findSome?_eq_some h
    exact ⟨format, hformat, n.text, hread⟩
  · cases h

/-- The types are told apart in the order in which reading a value does. -/
theorem ofField_suits (h : ofField field value = .ok scalar) : scalar.Suits field := by
  unfold ofField at h
  split at h <;> rename_i ht <;> (try split at h) <;> (try split at h) <;> cases h
  · exact .inl ht
  · exact .inr ht
  · exact ht
  · exact .inl ht
  · exact .inr ht
  · exact ht
  · rename_i t hread
    exact ⟨ht, readDate?_eq_some hread⟩

theorem single_suits (hf : field.WellFormed) (h : single field value = .ok scalar) :
    scalar.Suits field := by
  unfold single at h
  split at h
  · split at h
    · rename_i null hnull
      cases h
      exact suits_ofNullValue (hf.nullValue_isOf null hnull)
    · cases h
  · cases h
  · cases h
  · exact ofField_suits h

theorem listEntry_eq_ok (h : listEntry field value = .ok scalar) :
    ofField field value = .ok scalar := by
  unfold listEntry at h
  split at h
  · cases h
  · cases h
  · cases h
  · exact h

theorem listOf_eq_ok {scalars : List Scalar} (h : listOf field value = .ok scalars) :
    ∃ items, value = .arr items ∧ items ≠ [] ∧
      List.Forall₂ (fun item scalar => ofField field item = .ok scalar) items scalars := by
  unfold listOf at h
  split at h
  · cases h
  · rename_i items hitems
    refine ⟨items, rfl, hitems, (mapM_eq_ok_iff.mp h).imp ?_⟩
    intro item scalar hitem
    exact listEntry_eq_ok hitem
  · cases h

theorem listOf_suits {scalars : List Scalar} (h : listOf field value = .ok scalars) :
    scalars ≠ [] ∧ ∀ scalar ∈ scalars, scalar.Suits field := by
  obtain ⟨items, -, hne, hall⟩ := listOf_eq_ok h
  constructor
  · rintro rfl
    cases hall
    exact hne rfl
  · intro scalar hscalar
    obtain ⟨item, -, hitem⟩ := exists_of_mem_right hall scalar hscalar
    exact ofField_suits hitem

end Scalar

/-- Operators that take one value and look at it as a whole. -/
def Operator.Compares (op : Operator) : Prop := op = equals ∨ op.isRange = true

namespace Operand

/-- What an operand of an operator looks like, with scalars that suit the field. -/
def Suits (field : Field) : Operator → Operand → Prop
  | .isPresent, operand => operand = absent
  | .isIn, operand => ∃ values, operand = list values ∧ values ≠ [] ∧
      ∀ value ∈ values, value.Suits field
  | .regex, operand => ∃ text, operand = pattern text
  | _, operand => ∃ value, operand = single value ∧ value.Suits field

variable {field : Field} {op : Operator} {value : Json} {operand : Operand}

theorem Suits.of_isRange (h : operand.Suits field op) (hop : op.isRange = true) :
    ∃ value, operand = single value ∧ value.Suits field := by
  cases op with
  | greaterThan => exact h
  | greaterThanOrEqual => exact h
  | lessThan => exact h
  | lessThanOrEqual => exact h
  | _ => cases hop

theorem ofValue_compares (hop : op.Compares) (value : Json) :
    ofValue field op value = (Scalar.single field value).map single := by
  rcases hop with rfl | hop
  · rfl
  · cases op with
    | greaterThan => rfl
    | greaterThanOrEqual => rfl
    | lessThan => rfl
    | lessThanOrEqual => rfl
    | _ => cases hop

theorem ofValue_words (hop : op = .contains ∨ op = .startsWith)
    (h : ofValue field op value = .ok operand) :
    ∃ scalar, Scalar.single field value = .ok scalar ∧ scalar.isBlankText = false ∧
      operand = .single scalar := by
  rcases hop with rfl | rfl <;> simp only [ofValue] at h
  all_goals
    split at h
    · rename_i scalar hscalar
      split at h
      · cases h
      · rename_i hblank
        cases h
        exact ⟨scalar, hscalar, Bool.eq_false_iff.mpr hblank, rfl⟩
    · cases h

theorem ofValue_suits (hf : field.WellFormed) (h : ofValue field op value = .ok operand) :
    operand.Suits field op := by
  have hsingle : (Scalar.single field value).map single = .ok operand →
      ∃ scalar, operand = single scalar ∧ scalar.Suits field := by
    intro h
    obtain ⟨scalar, hscalar, rfl⟩ := map_eq_ok_iff.mp h
    exact ⟨scalar, rfl, Scalar.single_suits hf hscalar⟩
  have hwords : op = .contains ∨ op = .startsWith →
      ∃ scalar, operand = single scalar ∧ scalar.Suits field := by
    intro hop
    obtain ⟨scalar, hscalar, -, rfl⟩ := ofValue_words hop h
    exact ⟨scalar, rfl, Scalar.single_suits hf hscalar⟩
  cases op with
  | isPresent => cases h; rfl
  | isIn =>
    obtain ⟨scalars, hscalars, rfl⟩ := map_eq_ok_iff.mp h
    exact ⟨scalars, rfl, Scalar.listOf_suits hscalars⟩
  | regex =>
    simp only [ofValue] at h
    split at h <;> cases h
    exact ⟨_, rfl⟩
  | contains => exact hwords (.inl rfl)
  | startsWith => exact hwords (.inr rfl)
  | equals => exact hsingle h
  | greaterThan => exact hsingle h
  | greaterThanOrEqual => exact hsingle h
  | lessThan => exact hsingle h
  | lessThanOrEqual => exact hsingle h

end Operand

end ReportSearch
