import ReportSearch.Proofs.Rule.Checked
import ReportSearch.Proofs.Rule.Operand

/-!
# Binding rules to variants

What a checked rule can become before it is negated: one case for each way in which an operator is
answered. Every leaf tests a variant of the field.
-/

set_option autoImplicit false

namespace ReportSearch

open QueryTree (leafOn)

/-- The trees of a rule, by its operator and its operand. -/
inductive CheckedRule.Binds (rule : CheckedRule) : QueryTree → Prop where
  | presence (hop : rule.operator = .isPresent) :
      Binds rule (leafOn rule.field rule.field.comparedVariant .isPresent)
  | equality {value : Scalar} {tree : QueryTree} (hop : rule.operator = .equals)
      (hsuits : value.Suits rule.field) (htree : QueryTree.equality? rule.field value = some tree) :
      Binds rule tree
  | membership {values : List Scalar} (hop : rule.operator = .isIn) (hne : values ≠ [])
      (hsuit : ∀ value ∈ values, value.Suits rule.field) :
      Binds rule (QueryTree.membership rule.field values)
  | words {value : Scalar} {variant : Variant} (hop : rule.operator = .contains)
      (hvariant : rule.field.analyzedVariant? = some variant) :
      Binds rule (leafOn rule.field variant (.allWords value.searchText))
  | start {value : Scalar} {variant : Variant} (hop : rule.operator = .startsWith)
      (hvariant : rule.field.exactVariant? = some variant) :
      Binds rule (leafOn rule.field variant (.startsWith value.searchText))
  | pattern {text : String} {variant : Variant} (hop : rule.operator = .regex)
      (hvariant : rule.field.exactVariant? = some variant) :
      Binds rule (leafOn rule.field variant (.matchesPattern text))
  | range {value bound : Scalar} {variant : Variant} (hop : rule.operator.isRange = true)
      (hsuits : value.Suits rule.field)
      (hbound : rule.field.rangeOperand? value = some (variant, bound)) :
      Binds rule (leafOn rule.field variant (.range (QueryTree.boundsFor rule.operator bound)))

namespace QueryTree

theorem positive?_of_isRange {rule : CheckedRule} {value : Scalar}
    (hop : rule.operator.isRange = true) (hvalue : rule.operand = .single value) :
    positive? rule = (rule.field.rangeOperand? value).map fun (variant, bound) =>
      leafOn rule.field variant (.range (boundsFor rule.operator bound)) := by
  unfold positive?
  rw [hvalue]
  cases h : rule.operator with
  | greaterThan => rfl
  | greaterThanOrEqual => rfl
  | lessThan => rfl
  | lessThanOrEqual => rfl
  | _ =>
    rw [h] at hop
    cases hop

/-- The shape of the operand decides nothing: it follows the operator. -/
theorem binds_of_positive? {rule : CheckedRule} {tree : QueryTree}
    (hsuits : rule.operand.Suits rule.field rule.operator) (h : positive? rule = some tree) :
    rule.Binds tree := by
  by_cases hrange : rule.operator.isRange = true
  · obtain ⟨value, hvalue, hsuits⟩ := hsuits.of_isRange hrange
    rw [positive?_of_isRange hrange hvalue] at h
    obtain ⟨⟨variant, bound⟩, hbound, rfl⟩ := Option.map_eq_some_iff.mp h
    exact .range hrange hsuits hbound
  · obtain ⟨field, op, operand, negated⟩ := rule
    cases op with
    | isPresent =>
      cases h
      exact .presence rfl
    | equals =>
      obtain ⟨value, rfl, hvalue⟩ := hsuits
      exact .equality rfl hvalue h
    | isIn =>
      obtain ⟨values, rfl, hne, hvalues⟩ := hsuits
      cases h
      exact .membership rfl hne hvalues
    | contains =>
      obtain ⟨value, rfl, -⟩ := hsuits
      obtain ⟨variant, hvariant, rfl⟩ := Option.map_eq_some_iff.mp h
      exact .words rfl hvariant
    | startsWith =>
      obtain ⟨value, rfl, -⟩ := hsuits
      obtain ⟨variant, hvariant, rfl⟩ := Option.map_eq_some_iff.mp h
      exact .start rfl hvariant
    | regex =>
      obtain ⟨text, rfl⟩ := hsuits
      obtain ⟨variant, hvariant, rfl⟩ := Option.map_eq_some_iff.mp h
      exact .pattern rfl hvariant
    | _ => exact absurd rfl hrange

end QueryTree

end ReportSearch
