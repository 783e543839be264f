import ReportSearch.Proofs.Query.StoredForm

/-!
# The variants that rules test

A rule becomes one leaf, or one phrase for each of its values, and is negated once if at all. Each
leaf tests a variant of the rule's own field: the first one that keeps values as they are where
whole values are compared, one of words for words, one of texts for beginnings and patterns, and
one of numbers or dates for ranges.
-/

set_option autoImplicit false

namespace ReportSearch

open Attempts

namespace Field

/-- The first variant whose kind passes a test. -/
def IsFirst (field : Field) (test : VariantKind → Bool) (variant : Variant) : Prop :=
  ∃ before rest, field.variants = before ++ variant :: rest ∧ test variant.kind = true ∧
    ∀ other ∈ before, test other.kind = false

def Lacks (field : Field) (test : VariantKind → Bool) : Prop :=
  ∀ variant ∈ field.variants, test variant.kind = false

/-- The first variant that keeps values as they are, or the root where none does. -/
def IsCompared (field : Field) (variant : Variant) : Prop :=
  field.IsFirst VariantKind.isVerbatim variant ∨
    field.Lacks VariantKind.isVerbatim ∧ variant = field.rootVariant

/-- The first variant that counts time, or the first one of dates where none does. -/
def IsTimed (field : Field) (variant : Variant) : Prop :=
  field.IsFirst VariantKind.isEpoch variant ∨
    field.Lacks VariantKind.isEpoch ∧ field.IsFirst (fun kind => decide (kind = .date)) variant

variable {field : Field} {variant : Variant} {test : VariantKind → Bool}

theorem isFirst_of_find? (h : field.variants.find? (fun v => test v.kind) = some variant) :
    field.IsFirst test variant := by
  obtain ⟨htest, before, rest, hsplit, hbefore⟩ := List.find?_eq_some_iff_append.mp h
  refine ⟨before, rest, hsplit, htest, ?_⟩
  intro other hother
  simpa using hbefore other hother

theorem of_find?_kind {kind : VariantKind}
    (h : field.variants.find? (·.kind = kind) = some variant) :
    variant ∈ field.variants ∧ variant.kind = kind := by
  have hkind := List.find?_some h
  exact ⟨List.mem_of_find?_eq_some h, of_decide_eq_true hkind⟩

theorem lacks_iff : field.Lacks test ↔ field.variants.find? (fun v => test v.kind) = none := by
  simp [Lacks, List.find?_eq_none]

theorem IsFirst.mem (h : field.IsFirst test variant) : variant ∈ field.variants := by
  obtain ⟨before, rest, hsplit, -, -⟩ := h
  rw [hsplit]
  simp

theorem IsTimed.mem (h : field.IsTimed variant) : variant ∈ field.variants := by
  rcases h with hepoch | ⟨-, hdate⟩
  · exact hepoch.mem
  · exact hdate.mem

theorem isTimed_of_orElse (h : (field.epochVariant? <|> field.dateVariant?) = some variant) :
    field.IsTimed variant := by
  cases hepoch : field.epochVariant? with
  | some epoch =>
    rw [hepoch] at h
    cases h
    exact Or.inl (isFirst_of_find? hepoch)
  | none =>
    rw [hepoch] at h
    exact Or.inr ⟨lacks_iff.mpr hepoch, isFirst_of_find? h⟩

theorem comparedVariant_isCompared (field : Field) : field.IsCompared field.comparedVariant := by
  unfold comparedVariant
  cases h : field.verbatimVariant? with
  | none => exact Or.inr ⟨lacks_iff.mpr h, rfl⟩
  | some variant => exact Or.inl (isFirst_of_find? h)

/-- Where something can be compared, the root keeps values or is split into words. -/
theorem WellFormed.comparedVariant_isVerbatim (hf : field.WellFormed)
    (htype : field.type ≠ .nestedObject) (hkind : field.comparedVariant.kind ≠ .analyzed) :
    field.comparedVariant.kind.isVerbatim = true := by
  rcases field.comparedVariant_isCompared with ⟨-, -, -, hverbatim, -⟩ | ⟨-, hroot⟩
  · exact hverbatim
  · rw [hroot, hf.root_kind] at hkind ⊢
    generalize field.type = type at htype hkind
    cases type with
    | string => exact absurd rfl hkind
    | nestedObject => exact absurd rfl htype
    | _ => rfl

theorem lacks_of_comparedVariant (hkind : field.comparedVariant.kind = .analyzed) :
    field.Lacks VariantKind.isVerbatim ∧ field.comparedVariant = field.rootVariant := by
  rcases field.comparedVariant_isCompared with ⟨-, -, -, hverbatim, -⟩ | hnone
  · rw [hkind] at hverbatim
    cases hverbatim
  · exact hnone

end Field

theorem FieldType.of_rootKind_eq_analyzed {type : FieldType} (h : type.rootKind = .analyzed) :
    type = .string := by
  cases type with
  | string => rfl
  | _ => cases h

theorem FieldType.of_rootKind_eq_numeric {type : FieldType} (h : type.rootKind = .numeric) :
    type = .integer ∨ type = .long ∨ type = .double := by
  cases type <;> simp [rootKind] at h ⊢

theorem Scalar.Suits.type_ne {field : Field} {value : Scalar} (h : value.Suits field) :
    field.type ≠ .nestedObject := by
  intro htype
  cases value <;> simp [Suits, htype] at h

namespace Condition

/-- The kinds of variants that a condition can test. -/
def Admits : Condition → VariantKind → Prop
  | .term _, kind => kind.isVerbatim = true
  | .terms _, kind => kind.isVerbatim = true
  | .allWords _, kind => kind = .analyzed
  | .phrase _, kind => kind = .analyzed
  | .startsWith _, kind => kind = .exact
  | .matchesPattern _, kind => kind = .exact
  | .range _, kind => kind = .numeric ∨ kind = .date ∨ kind.isEpoch = true
  | .isPresent, _ => True

def Answers : Condition → Operator → Prop
  | .term _, op => op = .equals
  | .terms _, op => op = .isIn
  | .allWords _, op => op = .contains
  | .phrase _, op => op = .equals ∨ op = .isIn
  | .startsWith _, op => op = .startsWith
  | .matchesPattern _, op => op = .regex
  | .range _, op => op.isRange = true
  | .isPresent, op => op = .isPresent

end Condition

/-- The variant that a range of a field compares by. -/
inductive Field.Ranges (field : Field) (variant : Variant) : Prop where
  | number (htype : field.type = .integer ∨ field.type = .long ∨ field.type = .double)
      (hkind : variant.kind = .numeric)
  | epoch (htype : field.type = .date) (hfirst : field.IsFirst VariantKind.isEpoch variant)
  | date (htype : field.type = .date) (hnone : field.Lacks VariantKind.isEpoch)
      (hkind : variant.kind = .date)

/-- A leaf of a rule on a variant of the rule's field. -/
structure Leaf.IsOn (rule : CheckedRule) (variant : Variant) (leaf : Leaf) : Prop where
  field : leaf.field = rule.field.name
  own : variant ∈ rule.field.variants
  path : leaf.path = variant.path
  answers : leaf.condition.Answers rule.operator
  admits : leaf.condition.Admits variant.kind
  compared : rule.operator = .equals ∨ rule.operator = .isIn ∨ rule.operator = .isPresent →
    rule.field.IsCompared variant
  ranges : rule.operator.isRange = true → rule.field.Ranges variant

namespace CheckedRule

variable {rule : CheckedRule} {tree : QueryTree} {variant : Variant} {condition : Condition}

theorem leafOn_isOn_compared (hop : rule.operator.isRange = false)
    (hanswers : condition.Answers rule.operator)
    (hadmits : condition.Admits rule.field.comparedVariant.kind) :
    Leaf.IsOn rule rule.field.comparedVariant
      ⟨rule.field.name, rule.field.comparedVariant.path, condition⟩ where
  field := rfl
  own := rule.field.comparedVariant_mem
  path := rfl
  answers := hanswers
  admits := hadmits
  compared := fun _ => rule.field.comparedVariant_isCompared
  ranges := fun h => absurd h (by rw [hop]; decide)

theorem equality_isOn (hf : rule.field.WellFormed) (hop : rule.operator = .equals) {value : Scalar}
    (hsuits : value.Suits rule.field) (htree : QueryTree.equality? rule.field value = some tree) :
    ∃ leaf, tree = .leaf leaf ∧ leaf.IsOn rule rule.field.comparedVariant := by
  have hnoRange : rule.operator.isRange = false := by
    rw [hop]
    rfl
  by_cases hdate : rule.field.type = .date
  · -- The root of a date field keeps dates as they are, and it comes first.
    obtain ⟨t, rfl⟩ := hsuits.eq_date hdate
    have hverbatim : rule.field.type.rootKind.isVerbatim = true := by
      rw [hdate]
      rfl
    have hcompared := hf.comparedVariant_eq hverbatim
    simp only [QueryTree.equality?, hf.dateVariant?_eq hdate, ← hcompared] at htree
    cases htree
    refine ⟨_, rfl, leafOn_isOn_compared hnoRange hop ?_⟩
    rw [hcompared]
    change rule.field.rootVariant.kind.isVerbatim = true
    rw [hf.root_kind]
    exact hverbatim
  · rw [QueryTree.equality?_eq (fun t h => hdate (h ▸ hsuits).1)] at htree
    cases htree
    by_cases hkind : rule.field.comparedVariant.kind = .analyzed
    · rw [if_pos hkind]
      exact ⟨_, rfl, leafOn_isOn_compared hnoRange (Or.inl hop) hkind⟩
    · rw [if_neg hkind]
      have hverbatim := hf.comparedVariant_isVerbatim hsuits.type_ne hkind
      exact ⟨_, rfl, leafOn_isOn_compared hnoRange hop hverbatim⟩

theorem membership_isOn (hf : rule.field.WellFormed) (hop : rule.operator = .isIn)
    {values : List Scalar} (hne : values ≠ []) (hsuit : ∀ value ∈ values, value.Suits rule.field) :
    ∀ leaf ∈ (QueryTree.membership rule.field values).leaves,
      leaf.IsOn rule rule.field.comparedVariant := by
  have hnoRange : rule.operator.isRange = false := by
    rw [hop]
    rfl
  intro leaf hleaf
  unfold QueryTree.membership at hleaf
  by_cases hkind : rule.field.comparedVariant.kind = .analyzed
  · simp only [hkind, if_true] at hleaf
    obtain ⟨part, hpart, hleaf⟩ := QueryTree.mem_leaves_any hleaf
    obtain ⟨value, -, rfl⟩ := List.mem_map.mp hpart
    rw [List.mem_singleton.mp hleaf]
    exact leafOn_isOn_compared hnoRange (Or.inr hop) hkind
  · simp only [hkind, if_false] at hleaf
    obtain ⟨first, rest, rfl⟩ := List.exists_cons_of_ne_nil hne
    have htype := (hsuit first List.mem_cons_self).type_ne
    rw [List.mem_singleton.mp hleaf]
    exact leafOn_isOn_compared hnoRange hop (hf.comparedVariant_isVerbatim htype hkind)

theorem leafOn_isOn_text (hop : rule.operator.isExactMatch = false)
    (hnoRange : rule.operator.isRange = false) (hown : variant ∈ rule.field.variants)
    (hanswers : condition.Answers rule.operator) (hadmits : condition.Admits variant.kind) :
    Leaf.IsOn rule variant ⟨rule.field.name, variant.path, condition⟩ where
  field := rfl
  own := hown
  path := rfl
  answers := hanswers
  admits := hadmits
  compared := by
    rintro (h | h | h) <;> rw [h] at hop <;> cases hop
  ranges := fun h => absurd h (by rw [hnoRange]; decide)

/-- Numbers are compared by a variant of numbers, and dates by their number where there is one. -/
theorem ranges_of_rangeOperand? (hop : rule.operator.isRange = true)
    (hlegal : rule.operator.isLegalFor rule.field.type = true) {value bound : Scalar}
    (hsuits : value.Suits rule.field)
    (hbound : rule.field.rangeOperand? value = some (variant, bound)) :
    variant ∈ rule.field.variants ∧ rule.field.Ranges variant := by
  by_cases hdate : rule.field.type = .date
  · obtain ⟨t, rfl⟩ := hsuits.eq_date hdate
    obtain ⟨found, hfound, h⟩ := Option.map_eq_some_iff.mp hbound
    cases h
    have htimed := Field.isTimed_of_orElse hfound
    refine ⟨htimed.mem, ?_⟩
    rcases htimed with hfirst | ⟨hnone, -, -, -, hkind, -⟩
    · exact .epoch hdate hfirst
    · exact .date hdate hnone (of_decide_eq_true hkind)
  · rw [Field.rangeOperand?_eq (fun t h => hdate (h ▸ hsuits).1)] at hbound
    obtain ⟨found, hfound, h⟩ := Option.map_eq_some_iff.mp hbound
    cases h
    obtain ⟨hown, hkind⟩ := Field.of_find?_kind hfound
    have hnumeric := (Operator.rootKind_of_isRange hop hlegal).resolve_right hdate
    exact ⟨hown, .number (FieldType.of_rootKind_eq_numeric hnumeric) hkind⟩

theorem Binds.isOn (h : rule.Binds tree) (hf : rule.field.WellFormed)
    (hlegal : rule.operator.isLegalFor rule.field.type = true) :
    ∀ leaf ∈ tree.leaves, ∃ variant, leaf.IsOn rule variant := by
  intro leaf hleaf
  cases h with
  | presence hop =>
    rw [List.mem_singleton.mp hleaf]
    exact ⟨_, leafOn_isOn_compared (by rw [hop]; rfl) hop trivial⟩
  | equality hop hsuits htree =>
    obtain ⟨own, rfl, hown⟩ := equality_isOn hf hop hsuits htree
    rw [List.mem_singleton.mp hleaf]
    exact ⟨_, hown⟩
  | membership hop hne hsuit => exact ⟨_, membership_isOn hf hop hne hsuit leaf hleaf⟩
  | words hop hvariant =>
    rw [List.mem_singleton.mp hleaf]
    obtain ⟨hown, hkind⟩ := Field.of_find?_kind hvariant
    exact ⟨_, leafOn_isOn_text (by rw [hop]; rfl) (by rw [hop]; rfl) hown hop hkind⟩
  | start hop hvariant =>
    rw [List.mem_singleton.mp hleaf]
    obtain ⟨hown, hkind⟩ := Field.of_find?_kind hvariant
    exact ⟨_, leafOn_isOn_text (by rw [hop]; rfl) (by rw [hop]; rfl) hown hop hkind⟩
  | pattern hop hvariant =>
    rw [List.mem_singleton.mp hleaf]
    obtain ⟨hown, hkind⟩ := Field.of_find?_kind hvariant
    exact ⟨_, leafOn_isOn_text (by rw [hop]; rfl) (by rw [hop]; rfl) hown hop hkind⟩
  | @range value bound variant hop hsuits hbound =>
    rw [List.mem_singleton.mp hleaf]
    obtain ⟨hown, hranges⟩ := ranges_of_rangeOperand? hop hlegal hsuits hbound
    refine ⟨variant, rfl, hown, rfl, hop, ?_, ?_, fun _ => hranges⟩
    · cases hranges with
      | number htype hkind => exact Or.inl hkind
      | epoch htype hfirst =>
        obtain ⟨-, -, -, hepoch, -⟩ := hfirst
        exact Or.inr (Or.inr hepoch)
      | date htype hnone hkind => exact Or.inr (Or.inl hkind)
    · rintro (h | h | h) <;> rw [h] at hop <;> cases hop

/-- A single leaf; or, for a list where no variant keeps values as they are, one phrase for each of
its items. -/
inductive HasShape (rule : CheckedRule) (value : Json) : QueryTree → Prop where
  | phrases {items : List Json} {parts : List QueryTree} (hop : rule.operator = .isIn)
      (hnone : rule.field.Lacks VariantKind.isVerbatim) (hvalue : value = .arr items)
      (hparts : List.Forall₂ (fun item part => ∃ text, Scalar.readText? item = some text ∧
        part = .leaf ⟨rule.field.name, rule.field.rootVariant.path, .phrase text⟩) items parts) :
      HasShape rule value (.any parts)
  | single {leaf : Leaf}
      (hother : ¬(rule.operator = .isIn ∧ rule.field.Lacks VariantKind.isVerbatim)) :
      HasShape rule value (.leaf leaf)

theorem hasShape_leafOn {value : Json} (hop : rule.operator ≠ .isIn) :
    rule.HasShape value (QueryTree.leafOn rule.field variant condition) :=
  .single fun h => hop h.1

end CheckedRule

namespace Scalar

variable {field : Field}

theorem ofField_of_string (htype : field.type = .string) {item : Json} {scalar : Scalar}
    (h : ofField field item = .ok scalar) :
    ∃ s, readText? item = some s ∧ scalar = .text s := by
  simp only [ofField, htype] at h
  cases hread : readText? item with
  | none =>
    rw [hread] at h
    cases h
  | some s =>
    rw [hread] at h
    cases h
    exact ⟨s, rfl, rfl⟩

end Scalar

namespace CheckedRule

variable {rule : CheckedRule} {tree : QueryTree}

theorem membership_hasShape (hf : rule.field.WellFormed) (hop : rule.operator = .isIn)
    (hlegal : rule.operator.isLegalFor rule.field.type = true) {value : Json}
    {values : List Scalar} (hvalues : Scalar.listOf rule.field value = .ok values) :
    rule.HasShape value (QueryTree.membership rule.field values) := by
  unfold QueryTree.membership
  by_cases hkind : rule.field.comparedVariant.kind = .analyzed
  · simp only [hkind, if_true]
    obtain ⟨hnone, hroot⟩ := Field.lacks_of_comparedVariant hkind
    rw [hroot, hf.root_kind] at hkind
    have hstring := FieldType.of_rootKind_eq_analyzed hkind
    obtain ⟨items, hitems, -, hall⟩ := Scalar.listOf_eq_ok hvalues
    refine .phrases hop hnone hitems (List.forall₂_map_right_iff.mpr (hall.imp ?_))
    intro item scalar hitem
    obtain ⟨s, hread, rfl⟩ := Scalar.ofField_of_string hstring hitem
    rw [hroot]
    exact ⟨s, hread, rfl⟩
  · simp only [hkind, if_false]
    refine .single ?_
    rintro ⟨-, hnone⟩
    have htype : rule.field.type ≠ .nestedObject := by
      intro htype
      rw [hop, htype] at hlegal
      cases hlegal
    have hverbatim := hf.comparedVariant_isVerbatim htype hkind
    rw [hnone _ rule.field.comparedVariant_mem] at hverbatim
    cases hverbatim

theorem hasShape_of_positive? (hf : rule.field.WellFormed)
    (hlegal : rule.operator.isLegalFor rule.field.type = true) {value : Json}
    (hoperand : Operand.ofValue rule.field rule.operator value = .ok rule.operand)
    (hpositive : QueryTree.positive? rule = some tree) : rule.HasShape value tree := by
  have hbinds := QueryTree.binds_of_positive? (Operand.ofValue_suits hf hoperand) hpositive
  by_cases hop : rule.operator = .isIn
  · have hlist := hoperand
    rw [hop] at hlist
    obtain ⟨values, hvalues, hoperand⟩ := map_eq_ok_iff.mp hlist
    have htree : tree = QueryTree.membership rule.field values := by
      unfold QueryTree.positive? at hpositive
      rw [hop, ← hoperand] at hpositive
      exact (Option.some.inj hpositive).symm
    rw [htree]
    exact membership_hasShape hf hop hlegal hvalues
  · cases hbinds with
    | equality hequals hsuits htree =>
      obtain ⟨leaf, rfl, -⟩ := equality_isOn hf hequals hsuits htree
      exact .single fun h => hop h.1
    | membership hin hne hsuit => exact absurd hin hop
    | _ => exact hasShape_leafOn hop

end CheckedRule

namespace Rule

/-- A rule that is checked and answered becomes one leaf, or one phrase for each of its values,
negated once if the rule is; and every leaf is on the variant that its operator asks for. -/
theorem leaves_on_variants {source : Json} {mapping : Mapping} {version : Nat} {rule : Rule}
    {checked : CheckedRule} {tree : QueryTree} (hkeys : source.KeysDistinct)
    (hread : Mapping.ofJson source = .ok mapping)
    (hchecked : check (Catalog.ofMapping mapping version) rule = .ok checked)
    (htree : QueryTree.ofRule checked = .ok tree) :
    checked.field.name = rule.field ∧
      (∃ positive, checked.HasShape rule.value positive ∧
        tree = if rule.isNegated then .not positive else positive) ∧
      ∀ leaf ∈ tree.leaves, ∃ variant, leaf.IsOn checked variant := by
  obtain ⟨hfield, -, hlegal, hoperand, hnegated⟩ := check_eq_ok hchecked
  have hf := Catalog.lookup?_wellFormed hkeys hread hfield
  obtain ⟨positive, hpositive, rfl⟩ := QueryTree.ofRule_eq_ok htree
  have hshape := CheckedRule.hasShape_of_positive? hf hlegal hoperand hpositive
  have hbinds := QueryTree.binds_of_positive? (Operand.ofValue_suits hf hoperand) hpositive
  refine ⟨name_of_check hchecked, ⟨positive, hshape, by rw [hnegated]⟩, ?_⟩
  intro leaf hleaf
  apply hbinds.isOn hf hlegal
  split at hleaf
  · rwa [QueryTree.leaves] at hleaf
  · exact hleaf

/-- A field of words alone. -/
def wordsSource : Json :=
  .obj [("properties", .obj [("words", .obj [("type", .str "text")])])]

def wordsMapping : Mapping where
  fields := [{ name := "words", type := .string, rootVariant := .root "words" .analyzed none
               otherVariants := [] }]
  defaultColumns := []
  versionTag := none

def wordsRule : Rule where
  field := "words"
  operator := "in"
  value := .arr [.str "slow start", .num (.int 7)]
  isNegated := true

def checkedWordsRule : CheckedRule where
  field := { name := "words", type := .string, rootVariant := .root "words" .analyzed none
             otherVariants := [] }
  operator := .isIn
  operand := .list [.text "slow start", .text "7"]
  isNegated := true

def wordsTree : QueryTree :=
  .not (.any [.leaf ⟨"words", "words", .phrase "slow start"⟩, .leaf ⟨"words", "words", .phrase "7"⟩])

theorem ofJson_wordsSource : Mapping.ofJson wordsSource = .ok wordsMapping := by decide +kernel

theorem check_wordsRule :
    check (Catalog.ofMapping wordsMapping 1) wordsRule = .ok checkedWordsRule := by
  decide +kernel

theorem wordsRule_on_variants :
    wordsSource.KeysDistinct ∧ Mapping.ofJson wordsSource = .ok wordsMapping ∧
      check (Catalog.ofMapping wordsMapping 1) wordsRule = .ok checkedWordsRule ∧
      QueryTree.ofRule checkedWordsRule = .ok wordsTree ∧
      checkedWordsRule.field.name = wordsRule.field ∧
      (∃ positive, checkedWordsRule.HasShape wordsRule.value positive ∧
        wordsTree = if wordsRule.isNegated then .not positive else positive) ∧
      ∀ leaf ∈ wordsTree.leaves, ∃ variant, leaf.IsOn checkedWordsRule variant := by
  have hkeys : wordsSource.KeysDistinct := by decide
  have htree : QueryTree.ofRule checkedWordsRule = .ok wordsTree := rfl
  exact ⟨hkeys, ofJson_wordsSource, check_wordsRule, htree,
    leaves_on_variants hkeys ofJson_wordsSource check_wordsRule htree⟩

end Rule

end ReportSearch
