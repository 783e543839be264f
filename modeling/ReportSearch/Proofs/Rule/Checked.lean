import ReportSearch.Proofs.Attempts
import ReportSearch.Query.OfRules
import ReportSearch.Rule.Check

/-!
# Checked rules

What a rule has gone through once it is checked, and the tree that it becomes. A rule is bound to
its field and its operand before it is negated, so negation changes the tree and nothing else.
-/

set_option autoImplicit false

namespace ReportSearch

open Attempts

namespace Rule

theorem check_eq_ok {catalog : Catalog} {rule : Rule} {checked : CheckedRule}
    (h : check catalog rule = .ok checked) :
    catalog.lookup? rule.field = some checked.field ∧
      Operator.ofText? rule.operator = some checked.operator ∧
      checked.operator.isLegalFor checked.field.type = true ∧
      Operand.ofValue checked.field checked.operator rule.value = .ok checked.operand ∧
      checked.isNegated = rule.isNegated := by
  unfold check at h
  split at h
  · cases h
  · rename_i field hfield
    split at h
    · cases h
    · rename_i op hop
      split at h
      · rename_i hlegal
        obtain ⟨operand, hoperand, rfl⟩ := map_eq_ok_iff.mp h
        exact ⟨hfield, hop, hlegal, hoperand, rfl⟩
      · cases h

theorem name_of_check {catalog : Catalog} {rule : Rule} {checked : CheckedRule}
    (h : check catalog rule = .ok checked) : checked.field.name = rule.field := by
  have hname := List.find?_some (check_eq_ok h).1
  exact of_decide_eq_true hname

/-- The tree of a rule as it stands before it is negated. -/
def affirmed (catalog : Catalog) (rule : Rule) : Except QueryFault QueryTree :=
  (check catalog rule).bind fun checked => QueryTree.ofRule { checked with isNegated := false }

end Rule

namespace QueryTree

theorem ofRule_eq_ok {checked : CheckedRule} {tree : QueryTree} (h : ofRule checked = .ok tree) :
    ∃ positive, positive? checked = some positive ∧
      tree = if checked.isNegated then not positive else positive := by
  unfold ofRule at h
  split at h
  · rename_i positive hpositive
    cases h
    exact ⟨positive, hpositive, rfl⟩
  · cases h

/-- Whether a rule is negated is not looked at before its tree is there. -/
theorem positive?_setNegated (checked : CheckedRule) (negated : Bool) :
    positive? { checked with isNegated := negated } = positive? checked := rfl

theorem ofRule_of_positive? {checked : CheckedRule} {positive : QueryTree}
    (h : positive? checked = some positive) :
    ofRule { checked with isNegated := false } = .ok positive := by
  unfold ofRule
  rw [positive?_setNegated, h]
  rfl

theorem ofRules_eq_ok {rules : List CheckedRule} {query : QueryTree}
    (h : ofRules rules = .ok query) :
    ∃ trees, List.Forall₂ (fun rule tree => ofRule rule = .ok tree) rules trees ∧
      query = conjunction trees := by
  unfold ofRules at h
  dsimp only at h
  split at h
  · rename_i hfaults
    cases h
    exact ⟨_, forall₂_of_collect (List.isEmpty_iff.mp hfaults), rfl⟩
  · cases h

end QueryTree

namespace Rule

theorem affirmed_of_ofRule {catalog : Catalog} {rule : Rule} {checked : CheckedRule}
    {tree : QueryTree} (hchecked : check catalog rule = .ok checked)
    (htree : QueryTree.ofRule checked = .ok tree) :
    ∃ positive, affirmed catalog rule = .ok positive ∧
      tree = if rule.isNegated then .not positive else positive := by
  obtain ⟨positive, hpositive, rfl⟩ := QueryTree.ofRule_eq_ok htree
  obtain ⟨-, -, -, -, hnegated⟩ := check_eq_ok hchecked
  refine ⟨positive, ?_, by rw [hnegated]⟩
  unfold affirmed
  rw [hchecked]
  exact QueryTree.ofRule_of_positive? hpositive

end Rule

end ReportSearch
