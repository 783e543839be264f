import ReportSearch.Proofs.Query.VariantChoice

/-!
# Rules that no variant answers

A checked rule fails to be answered for one reason: it asks for words of a field that is not split
into words, or for a beginning or a pattern of a field that keeps no texts. Its operand always has
the form that its operator takes, so that whole values and ranges are answered in any case.
-/

set_option autoImplicit false

namespace ReportSearch

/-- The operands that an operator can be answered with. -/
inductive Operator.Takes : Operator → Operand → Prop where
  | presence (operand : Operand) : Takes .isPresent operand
  | equality (value : Scalar) : Takes .equals (.single value)
  | membership (values : List Scalar) : Takes .isIn (.list values)
  | words (value : Scalar) : Takes .contains (.single value)
  | start (value : Scalar) : Takes .startsWith (.single value)
  | pattern (text : String) : Takes .regex (.pattern text)
  | range {op : Operator} (hop : op.isRange = true) (value : Scalar) : Takes op (.single value)

/-- No variant of the field can answer the operator. -/
def CheckedRule.Unanswerable (rule : CheckedRule) : Prop :=
  rule.operator = .contains ∧ (∀ variant ∈ rule.field.variants, variant.kind ≠ .analyzed) ∨
    (rule.operator = .startsWith ∨ rule.operator = .regex) ∧
      ∀ variant ∈ rule.field.variants, variant.kind ≠ .exact

theorem Operand.Suits.takes {field : Field} {op : Operator} {operand : Operand}
    (h : operand.Suits field op) : op.Takes operand := by
  by_cases hrange : op.isRange = true
  · obtain ⟨value, rfl, -⟩ := h.of_isRange hrange
    exact .range hrange value
  · cases op with
    | isPresent => exact .presence operand
    | isIn =>
      obtain ⟨values, rfl, -⟩ := h
      exact .membership values
    | regex =>
      obtain ⟨text, rfl⟩ := h
      exact .pattern text
    | equals =>
      obtain ⟨value, rfl, -⟩ := h
      exact .equality value
    | contains =>
      obtain ⟨value, rfl, -⟩ := h
      exact .words value
    | startsWith =>
      obtain ⟨value, rfl, -⟩ := h
      exact .start value
    | _ => exact absurd rfl hrange

namespace Field

variable {field : Field}

theorem find?_kind_eq_none_iff {kind : VariantKind} :
    field.variants.find? (·.kind = kind) = none ↔
      ∀ variant ∈ field.variants, variant.kind ≠ kind := by
  simp [List.find?_eq_none]

theorem WellFormed.exists_rangeOperand? (hf : field.WellFormed) {op : Operator}
    (hop : op.isRange = true) (hlegal : op.isLegalFor field.type = true) {value : Scalar}
    (hsuits : value.Suits field) :
    ∃ variant bound, field.rangeOperand? value = some (variant, bound) := by
  by_cases hdate : field.type = .date
  · obtain ⟨t, rfl⟩ := hsuits.eq_date hdate
    have hroot := hf.dateVariant?_eq hdate
    cases hepoch : field.epochVariant? with
    | some variant => exact ⟨variant, field.storedDate variant t, by simp [rangeOperand?, hepoch]⟩
    | none =>
      exact ⟨field.rootVariant, field.storedDate field.rootVariant t,
        by simp [rangeOperand?, hepoch, hroot]⟩
  · have hnumeric := (Operator.rootKind_of_isRange hop hlegal).resolve_right hdate
    have hroot : field.numericVariant? = some field.rootVariant := by
      simp [numericVariant?, variants, hf.root_kind, hnumeric]
    refine ⟨field.rootVariant, value, ?_⟩
    rw [rangeOperand?_eq (fun t h => hdate (h ▸ hsuits).1), hroot]
    rfl

theorem WellFormed.exists_equality? (hf : field.WellFormed) {value : Scalar}
    (hsuits : value.Suits field) : ∃ tree, QueryTree.equality? field value = some tree := by
  by_cases hdate : field.type = .date
  · obtain ⟨t, rfl⟩ := hsuits.eq_date hdate
    have hroot := hf.dateVariant?_eq hdate
    exact ⟨_, by simp only [QueryTree.equality?, hroot]; rfl⟩
  · exact ⟨_, QueryTree.equality?_eq fun t h => hdate (h ▸ hsuits).1⟩

end Field

namespace CheckedRule

variable {rule : CheckedRule}

theorem not_unanswerable (hop : rule.operator.isExactMatch = true ∨ rule.operator.isRange = true) :
    ¬rule.Unanswerable := by
  rintro (⟨h, -⟩ | ⟨h | h, -⟩)
  · rw [h] at hop
    exact absurd hop (by decide)
  · rw [h] at hop
    exact absurd hop (by decide)
  · rw [h] at hop
    exact absurd hop (by decide)

theorem positive?_eq_none_iff (hf : rule.field.WellFormed)
    (hlegal : rule.operator.isLegalFor rule.field.type = true)
    (hsuits : rule.operand.Suits rule.field rule.operator) :
    QueryTree.positive? rule = none ↔ rule.Unanswerable := by
  by_cases hrange : rule.operator.isRange = true
  · obtain ⟨value, hvalue, hsuits⟩ := hsuits.of_isRange hrange
    obtain ⟨variant, bound, hbound⟩ := hf.exists_rangeOperand? hrange hlegal hsuits
    rw [QueryTree.positive?_of_isRange hrange hvalue, hbound]
    exact iff_of_false (by simp) (not_unanswerable (Or.inr hrange))
  · obtain ⟨field, op, operand, negated⟩ := rule
    cases op with
    | isPresent =>
      exact iff_of_false (by simp [QueryTree.positive?]) (not_unanswerable (Or.inl rfl))
    | equals =>
      obtain ⟨value, rfl, hvalue⟩ := hsuits
      obtain ⟨tree, htree⟩ := hf.exists_equality? hvalue
      exact iff_of_false (by simp [QueryTree.positive?, htree]) (not_unanswerable (Or.inl rfl))
    | isIn =>
      obtain ⟨values, rfl, -⟩ := hsuits
      exact iff_of_false (by simp [QueryTree.positive?]) (not_unanswerable (Or.inl rfl))
    | contains =>
      obtain ⟨value, rfl, -⟩ := hsuits
      simp only [QueryTree.positive?, Option.map_eq_none_iff]
      rw [Field.analyzedVariant?, Field.find?_kind_eq_none_iff]
      simp [Unanswerable]
    | startsWith =>
      obtain ⟨value, rfl, -⟩ := hsuits
      simp only [QueryTree.positive?, Option.map_eq_none_iff]
      rw [Field.exactVariant?, Field.find?_kind_eq_none_iff]
      simp [Unanswerable]
    | regex =>
      obtain ⟨text, rfl⟩ := hsuits
      simp only [QueryTree.positive?, Option.map_eq_none_iff]
      rw [Field.exactVariant?, Field.find?_kind_eq_none_iff]
      simp [Unanswerable]
    | _ => exact absurd rfl hrange

end CheckedRule

theorem QueryTree.ofRule_eq_error_iff {rule : CheckedRule} {fault : QueryFault} :
    ofRule rule = .error fault ↔ positive? rule = none ∧
      fault = .unsupportedOperator rule.field.name rule.operator := by
  unfold ofRule
  cases h : positive? rule with
  | some tree => simp
  | none =>
    simp only [Except.error.injEq, true_and]
    exact eq_comm

theorem QueryTree.exists_ofRule_iff {rule : CheckedRule} :
    (∃ tree, ofRule rule = .ok tree) ↔ positive? rule ≠ none := by
  unfold ofRule
  cases h : positive? rule with
  | some tree => simp
  | none => simp

namespace Rule

/-- A checked rule fails exactly when no variant of its field answers its operator, with a fault
that names both; rules on whole values and ranges never do. -/
theorem unanswered_iff {source : Json} {mapping : Mapping} {version : Nat} {rule : Rule}
    {checked : CheckedRule} (hkeys : source.KeysDistinct)
    (hread : Mapping.ofJson source = .ok mapping)
    (hchecked : check (Catalog.ofMapping mapping version) rule = .ok checked) :
    Operator.ofText? rule.operator = some checked.operator ∧
      checked.operator.Takes checked.operand ∧
      (∀ fault, QueryTree.ofRule checked = .error fault ↔
        checked.Unanswerable ∧ fault = .unsupportedOperator rule.field checked.operator) ∧
      (checked.operator.isExactMatch = true ∨ checked.operator.isRange = true →
        ∃ tree, QueryTree.ofRule checked = .ok tree) := by
  obtain ⟨hfield, hop, hlegal, hoperand, -⟩ := check_eq_ok hchecked
  have hf := Catalog.lookup?_wellFormed hkeys hread hfield
  have hsuits := Operand.ofValue_suits hf hoperand
  have hnone := CheckedRule.positive?_eq_none_iff hf hlegal hsuits
  have hname := name_of_check hchecked
  refine ⟨hop, hsuits.takes, ?_, ?_⟩
  · intro fault
    rw [QueryTree.ofRule_eq_error_iff, hnone, hname]
  · intro hkind
    rw [QueryTree.exists_ofRule_iff, Ne, hnone]
    exact CheckedRule.not_unanswerable hkind

/-- A rule on the beginning of a text that is kept in words and in numbers only. -/
def startRule : Rule where
  field := "note"
  operator := " ^ "
  value := .str "js::"
  isNegated := true

def checkedStartRule : CheckedRule where
  field := Mapping.sampleText
  operator := .startsWith
  operand := .single (.text "js::")
  isNegated := true

theorem check_startRule :
    check (Catalog.ofMapping Mapping.sample 1) startRule = .ok checkedStartRule := by
  decide +kernel

/-- The rule is accepted and cannot be answered. -/
theorem startRule_unanswered :
    Mapping.sampleSource.KeysDistinct ∧ Mapping.ofJson Mapping.sampleSource = .ok Mapping.sample ∧
      check (Catalog.ofMapping Mapping.sample 1) startRule = .ok checkedStartRule ∧
      QueryTree.ofRule checkedStartRule = .error (.unsupportedOperator "note" .startsWith) := by
  refine ⟨Mapping.keysDistinct_sampleSource, Mapping.ofJson_sampleSource, check_startRule, ?_⟩
  obtain ⟨-, -, hfails, -⟩ := unanswered_iff Mapping.keysDistinct_sampleSource
    Mapping.ofJson_sampleSource check_startRule
  refine (hfails _).mpr ⟨Or.inr ⟨Or.inl rfl, ?_⟩, rfl⟩
  decide

end Rule

end ReportSearch
