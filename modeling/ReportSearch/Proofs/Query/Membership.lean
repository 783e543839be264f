import ReportSearch.Proofs.Query.StoredForm
import ReportSearch.Proofs.Query.Truth
import ReportSearch.Proofs.Rule.MissingValue

/-!
# Lists of values

A rule with a list of values is the disjunction of the rules that equal one of them: the list is
accepted when each value is, and the tree of the list is true when one of the other trees is. The
leaf that holds all values of a list has to be true where a leaf with one of them is.
-/

set_option autoImplicit false

namespace ReportSearch

open Attempts

theorem Operator.isLegalFor_equals {type : FieldType} (h : isIn.isLegalFor type = true) :
    equals.isLegalFor type = true := by
  cases type <;> first | rfl | cases h

namespace Scalar

variable {field : Field} {value : Json} {scalar : Scalar} {values : List Json}

/-- An entry of a list is read like a value on its own, but may not be missing. -/
theorem listEntry_eq_ok_iff :
    listEntry field value = .ok scalar ↔ value ≠ .null ∧ single field value = .ok scalar := by
  cases value with
  | null => simp [listEntry]
  | arr items => simp [listEntry, single]
  | obj members => simp [listEntry, single]
  | _ => exact (and_iff_right (by simp)).symm

theorem listOf_eq_ok_iff (hne : values ≠ []) (hnull : ∀ value ∈ values, value ≠ .null)
    {scalars : List Scalar} :
    listOf field (.arr values) = .ok scalars ↔
      List.Forall₂ (fun value scalar => single field value = .ok scalar) values scalars := by
  obtain ⟨first, rest, rfl⟩ := List.exists_cons_of_ne_nil hne
  have hread : listOf field (.arr (first :: rest)) = (first :: rest).mapM (listEntry field) := rfl
  rw [hread, mapM_eq_ok_iff]
  simp only [listEntry_eq_ok_iff, List.forall₂_and_left]
  exact and_iff_right hnull

theorem single_ne_date (hdate : field.type ≠ .date) (h : single field value = .ok scalar)
    (t : Instant) : scalar ≠ .date t := by
  rintro rfl
  unfold single at h
  split at h
  · split at h
    · rename_i null hnull
      cases null <;> cases h
    · cases h
  · cases h
  · cases h
  · exact hdate (ofField_suits h).1

end Scalar

/-- A leaf with several values is true where one with a single one of them is. -/
def Leaf.SplitsTerms (truth : Leaf → Bool) : Prop :=
  ∀ field path values,
    truth ⟨field, path, .terms values⟩ = values.any fun value => truth ⟨field, path, .term value⟩

/-- Whether a document meets a leaf that compares whole values, by the values at each path. -/
def Leaf.isMet (stored : String → List Scalar) (leaf : Leaf) : Bool :=
  match leaf.condition with
  | .term value => (stored leaf.path).contains value
  | .terms values => values.any fun value => (stored leaf.path).contains value
  | _ => false

theorem Leaf.isMet_splitsTerms (stored : String → List Scalar) : SplitsTerms (isMet stored) :=
  fun _ _ _ => rfl

namespace QueryTree

variable {field : Field} {values : List Scalar} {truth : Leaf → Bool}

/-- What a field is compared with for one value that is no date. -/
def comparison (field : Field) (value : Scalar) : QueryTree :=
  leafOn field field.comparedVariant
    (if field.comparedVariant.kind = .analyzed then .phrase value.searchText else .term value)

theorem holds_membership (htruth : Leaf.SplitsTerms truth) :
    (membership field values).holds truth =
      (values.map (comparison field)).any (holds truth) := by
  unfold membership comparison
  by_cases hkind : field.comparedVariant.kind = .analyzed
  · simp only [hkind, if_true, holds_any]
  · simp only [hkind, if_false, List.any_map]
    exact htruth field.name field.comparedVariant.path values

end QueryTree

namespace Rule

variable {catalog : Catalog} {name sign : String} {field : Field}

theorem check_equals_iff (hfield : catalog.lookup? name = some field)
    (hlegal : Operator.equals.isLegalFor field.type = true)
    (hop : Operator.ofText? sign = some .equals) {value : Json} {checked : CheckedRule} :
    check catalog ⟨name, sign, value, false⟩ = .ok checked ↔
      ∃ scalar, Scalar.single field value = .ok scalar ∧
        checked = ⟨field, .equals, .single scalar, false⟩ := by
  rw [check_eq ⟨name, sign, value, false⟩ hfield hop, if_pos hlegal, map_eq_ok_iff]
  simp only [Operand.ofValue, map_eq_ok_iff]
  constructor
  · rintro ⟨operand, ⟨scalar, hscalar, rfl⟩, rfl⟩
    exact ⟨scalar, hscalar, rfl⟩
  · rintro ⟨scalar, hscalar, rfl⟩
    exact ⟨.single scalar, ⟨scalar, hscalar, rfl⟩, rfl⟩

theorem check_isIn_iff (hfield : catalog.lookup? name = some field)
    (hlegal : Operator.isIn.isLegalFor field.type = true)
    (hop : Operator.ofText? sign = some .isIn) {values : List Json} (hne : values ≠ [])
    (hnull : ∀ value ∈ values, value ≠ .null) {negated : Bool} {checked : CheckedRule} :
    check catalog ⟨name, sign, .arr values, negated⟩ = .ok checked ↔
      ∃ scalars,
        List.Forall₂ (fun value scalar => Scalar.single field value = .ok scalar) values scalars ∧
        checked = ⟨field, .isIn, .list scalars, negated⟩ := by
  rw [check_eq ⟨name, sign, .arr values, negated⟩ hfield hop, if_pos hlegal, map_eq_ok_iff]
  simp only [Operand.ofValue, map_eq_ok_iff, Scalar.listOf_eq_ok_iff hne hnull]
  constructor
  · rintro ⟨operand, ⟨scalars, hscalars, rfl⟩, rfl⟩
    exact ⟨scalars, hscalars, rfl⟩
  · rintro ⟨scalars, hscalars, rfl⟩
    exact ⟨.list scalars, ⟨scalars, hscalars, rfl⟩, rfl⟩

/-- On any field that a list can be compared with, a list is accepted when each of its values is
accepted for equality, and it is true when one of the equalities is, or none where it is negated. -/
theorem isIn_iff_any_equals {listSign : String} (hfield : catalog.lookup? name = some field)
    (hlegal : Operator.isIn.isLegalFor field.type = true)
    (hlist : Operator.ofText? listSign = some .isIn) (hop : Operator.ofText? sign = some .equals)
    {values : List Json} (hne : values ≠ []) (hnull : ∀ value ∈ values, value ≠ .null)
    (negated : Bool) :
    ((∃ checked, check catalog ⟨name, listSign, .arr values, negated⟩ = .ok checked) ↔
      ∀ value ∈ values, ∃ checked, check catalog ⟨name, sign, value, false⟩ = .ok checked) ∧
    ∀ checked, check catalog ⟨name, listSign, .arr values, negated⟩ = .ok checked →
      ∃ tree parts, QueryTree.ofRule checked = .ok tree ∧
        List.Forall₂ (fun value part => ∃ one, check catalog ⟨name, sign, value, false⟩ = .ok one ∧
          QueryTree.ofRule one = .ok part) values parts ∧
        ∀ truth, Leaf.SplitsTerms truth →
          tree.holds truth =
            if negated then !parts.any (QueryTree.holds truth)
            else parts.any (QueryTree.holds truth) := by
  have hequals := Operator.isLegalFor_equals hlegal
  have hdate := Operator.not_date_of_isIn hlegal
  simp only [check_isIn_iff hfield hlegal hlist hne hnull, check_equals_iff hfield hequals hop]
  refine ⟨?_, ?_⟩
  · constructor
    · rintro ⟨checked, scalars, hscalars, rfl⟩ value hvalue
      obtain ⟨scalar, -, hscalar⟩ := exists_of_mem_left hscalars value hvalue
      exact ⟨_, scalar, hscalar, rfl⟩
    · intro h
      obtain ⟨scalars, hscalars⟩ := exists_forall₂_iff.mpr fun value hvalue => by
        obtain ⟨_, scalar, hscalar, -⟩ := h value hvalue
        exact ⟨scalar, hscalar⟩
      exact ⟨_, scalars, hscalars, rfl⟩
  · rintro checked ⟨scalars, hscalars, rfl⟩
    refine ⟨_, scalars.map (QueryTree.comparison field), rfl, ?_, ?_⟩
    · refine List.forall₂_map_right_iff.mpr (hscalars.imp ?_)
      intro value scalar hscalar
      refine ⟨_, ⟨scalar, hscalar, rfl⟩, ?_⟩
      simp only [QueryTree.ofRule, QueryTree.positive?,
        QueryTree.equality?_eq (Scalar.single_ne_date hdate hscalar)]
      rfl
    · intro truth htruth
      cases negated with
      | false => exact QueryTree.holds_membership htruth
      | true => exact congrArg Bool.not (QueryTree.holds_membership htruth)

def levelField : Field where
  name := "level"
  type := .integer
  rootVariant := .root "level" .numeric none
  otherVariants := []

def levelCatalog : Catalog := ⟨1, none, [levelField], []⟩

def levels : List Json := [.num (.int 1), .str " 2 "]

def checkedLevels : CheckedRule := ⟨levelField, .isIn, .list [.integer 1, .integer 2], true⟩

/-- A negated list of a number and a text for a number, in a document that has the second. -/
theorem levels_any_equals :
    check levelCatalog ⟨"level", "in", .arr levels, true⟩ = .ok checkedLevels ∧
      ∃ tree parts, QueryTree.ofRule checkedLevels = .ok tree ∧
        List.Forall₂ (fun value part => ∃ one,
          check levelCatalog ⟨"level", "=", value, false⟩ = .ok one ∧
            QueryTree.ofRule one = .ok part) levels parts ∧
        tree.holds (Leaf.isMet fun _ => [.integer 2]) =
          !parts.any (QueryTree.holds (Leaf.isMet fun _ => [.integer 2])) := by
  have hfield : levelCatalog.lookup? "level" = some levelField := rfl
  have hlist : Operator.ofText? "in" = some .isIn := by decide +kernel
  have hop : Operator.ofText? "=" = some .equals := by decide +kernel
  have hne : levels ≠ [] := by simp [levels]
  have hnull : ∀ value ∈ levels, value ≠ .null := by simp [levels]
  have hchecked : check levelCatalog ⟨"level", "in", .arr levels, true⟩ = .ok checkedLevels := by
    decide +kernel
  obtain ⟨tree, parts, htree, hparts, htruth⟩ :=
    (isIn_iff_any_equals hfield rfl hlist hop hne hnull true).2 checkedLevels hchecked
  exact ⟨hchecked, tree, parts, htree, hparts, htruth _ (Leaf.isMet_splitsTerms _)⟩

end Rule

end ReportSearch
