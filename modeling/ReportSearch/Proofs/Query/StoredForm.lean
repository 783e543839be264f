import ReportSearch.Proofs.Catalog.Lookup
import ReportSearch.Proofs.Query.Binding
import ReportSearch.Proofs.Query.Fitting

/-!
# Rules in stored form

The leaves of a rule carry their values in the form in which the variants they test store their own.
Values are checked against the type of the field, while the variant is chosen by its kind; the two
agree unless a rule compares whole values of a text field that other kinds of values stand in for.
-/

set_option autoImplicit false

namespace ReportSearch

open Attempts

def Bounds.values (bounds : Bounds) : List Scalar := bounds.entries.map (·.2)

def Condition.values : Condition → List Scalar
  | .term value => [value]
  | .terms values => values
  | .range bounds => bounds.values
  | _ => []

/-- The leaf names the path of a variant, and its values fit each variant with this path. -/
structure Leaf.Fits (field : Field) (leaf : Leaf) : Prop where
  variant : ∃ variant ∈ field.variants, variant.path = leaf.path
  values : ∀ variant ∈ field.variants, variant.path = leaf.path →
    ∀ value ∈ leaf.condition.values, value.Fits field.dateFormats variant.kind

/-- A rule that compares whole values of a text field where a variant of another kind keeps them. -/
def CheckedRule.Misbinds (rule : CheckedRule) : Prop :=
  rule.field.type = .string ∧ (rule.operator = .equals ∨ rule.operator = .isIn) ∧
    (rule.field.comparedVariant.kind = .numeric ∨ rule.field.comparedVariant.kind = .boolean)

theorem Operator.rootKind_of_isRange {op : Operator} {type : FieldType} (hop : op.isRange = true)
    (hlegal : op.isLegalFor type = true) : type.rootKind = .numeric ∨ type = .date := by
  cases type with
  | integer => exact Or.inl rfl
  | long => exact Or.inl rfl
  | double => exact Or.inl rfl
  | date => exact Or.inr rfl
  | _ => cases op <;> simp [isRange, isLegalFor] at hop hlegal

theorem Operator.not_date_of_isIn {type : FieldType}
    (hlegal : Operator.isIn.isLegalFor type = true) : type ≠ .date := by
  rintro rfl
  cases hlegal

theorem Leaf.fits_iff {field : Field} (hf : field.WellFormed) {variant : Variant}
    (hvariant : variant ∈ field.variants) (condition : Condition) :
    Leaf.Fits field ⟨field.name, variant.path, condition⟩ ↔
      ∀ value ∈ condition.values, value.Fits field.dateFormats variant.kind := by
  constructor
  · intro h
    exact h.values variant hvariant rfl
  · intro h
    refine ⟨⟨variant, hvariant, rfl⟩, ?_⟩
    intro other hother hpath
    rw [hf.eq_of_path_eq hother hvariant hpath]
    exact h

theorem Bounds.values_boundsFor {op : Operator} (hop : op.isRange = true) (bound : Scalar) :
    (QueryTree.boundsFor op bound).values = [bound] := by
  cases op with
  | greaterThan => rfl
  | greaterThanOrEqual => rfl
  | lessThan => rfl
  | lessThanOrEqual => rfl
  | _ => cases hop

namespace QueryTree

variable {field : Field} {variant : Variant} {condition : Condition}

theorem leafOn_fits_iff (hf : field.WellFormed) (hvariant : variant ∈ field.variants) :
    (∀ leaf ∈ (leafOn field variant condition).leaves, leaf.Fits field) ↔
      ∀ value ∈ condition.values, value.Fits field.dateFormats variant.kind := by
  rw [← Leaf.fits_iff hf hvariant]
  exact List.forall_mem_singleton

theorem leafOn_fits (hf : field.WellFormed) (hvariant : variant ∈ field.variants)
    (hvalues : condition.values = []) :
    ∀ leaf ∈ (leafOn field variant condition).leaves, leaf.Fits field := by
  rw [leafOn_fits_iff hf hvariant, hvalues]
  exact List.forall_mem_nil _

theorem mem_leaves_any {parts : List QueryTree} {leaf : Leaf} (h : leaf ∈ (any parts).leaves) :
    ∃ part ∈ parts, leaf ∈ part.leaves := by
  rw [leaves] at h
  induction parts with
  | nil => cases h
  | cons part rest ih =>
    rw [leavesOf, List.mem_append] at h
    rcases h with h | h
    · exact ⟨part, List.mem_cons_self, h⟩
    · obtain ⟨other, hother, hleaf⟩ := ih h
      exact ⟨other, List.mem_cons_of_mem part hother, hleaf⟩

theorem equality?_eq {value : Scalar} (hvalue : ∀ t, value ≠ .date t) :
    equality? field value = some (leafOn field field.comparedVariant
      (if field.comparedVariant.kind = .analyzed then .phrase value.searchText
        else .term value)) := by
  cases value with
  | date t => exact absurd rfl (hvalue t)
  | _ => rfl

end QueryTree

namespace CheckedRule

variable {rule : CheckedRule}

theorem not_misbinds_of_op (hequals : rule.operator ≠ .equals) (hin : rule.operator ≠ .isIn) :
    ¬rule.Misbinds := by
  rintro ⟨-, h | h, -⟩
  · exact hequals h
  · exact hin h

theorem not_misbinds_of_analyzed (h : rule.field.comparedVariant.kind = .analyzed) :
    ¬rule.Misbinds := by
  rintro ⟨-, -, hkind | hkind⟩
  · rw [h] at hkind
    cases hkind
  · rw [h] at hkind
    cases hkind

theorem misbinds_iff (hop : rule.operator = .equals ∨ rule.operator = .isIn) :
    rule.Misbinds ↔ rule.field.type = .string ∧ (rule.field.comparedVariant.kind = .numeric ∨
      rule.field.comparedVariant.kind = .boolean) := by
  unfold Misbinds
  simp only [hop, true_and]

theorem equality_fits_iff (hf : rule.field.WellFormed) (hop : rule.operator = .equals)
    {value : Scalar} (hsuits : value.Suits rule.field) {tree : QueryTree}
    (htree : QueryTree.equality? rule.field value = some tree) :
    (∀ leaf ∈ tree.leaves, leaf.Fits rule.field) ↔ ¬rule.Misbinds := by
  by_cases hdate : rule.field.type = .date
  · obtain ⟨t, rfl⟩ := hsuits.eq_date hdate
    obtain ⟨-, format, -, s, hread⟩ := hsuits
    have hkind : rule.field.rootVariant.kind = .date := by
      rw [hf.root_kind, hdate]
      rfl
    simp only [QueryTree.equality?, hf.dateVariant?_eq hdate] at htree
    cases htree
    have hfits := Field.storedDate_fits hf hdate (Or.inl hkind) (DateFormat.read?_isRepresented hread)
    apply iff_of_true
    · rw [QueryTree.leafOn_fits_iff hf List.mem_cons_self]
      exact List.forall_mem_singleton.mpr hfits
    · rintro ⟨hstring, -⟩
      rw [hdate] at hstring
      cases hstring
  · rw [QueryTree.equality?_eq (fun t h => hdate (h ▸ hsuits).1)] at htree
    cases htree
    by_cases hkind : rule.field.comparedVariant.kind = .analyzed
    · rw [if_pos hkind]
      exact iff_of_true (QueryTree.leafOn_fits hf rule.field.comparedVariant_mem rfl)
        (not_misbinds_of_analyzed hkind)
    · rw [if_neg hkind, QueryTree.leafOn_fits_iff hf rule.field.comparedVariant_mem,
        misbinds_iff (Or.inl hop), ← Field.fits_comparedVariant_iff hf hsuits hdate hkind]
      exact List.forall_mem_singleton

theorem membership_fits_iff (hf : rule.field.WellFormed) (hop : rule.operator = .isIn)
    (hdate : rule.field.type ≠ .date) {values : List Scalar} (hne : values ≠ [])
    (hsuit : ∀ value ∈ values, value.Suits rule.field) :
    (∀ leaf ∈ (QueryTree.membership rule.field values).leaves, leaf.Fits rule.field) ↔
      ¬rule.Misbinds := by
  unfold QueryTree.membership
  by_cases hkind : rule.field.comparedVariant.kind = .analyzed
  · simp only [hkind, if_true]
    refine iff_of_true ?_ (not_misbinds_of_analyzed hkind)
    intro leaf hleaf
    obtain ⟨part, hpart, hleaf⟩ := QueryTree.mem_leaves_any hleaf
    obtain ⟨value, -, rfl⟩ := List.mem_map.mp hpart
    exact QueryTree.leafOn_fits hf rule.field.comparedVariant_mem rfl leaf hleaf
  · simp only [hkind, if_false]
    have hfits := fun value hvalue =>
      Field.fits_comparedVariant_iff hf (hsuit value hvalue) hdate hkind
    rw [QueryTree.leafOn_fits_iff hf rule.field.comparedVariant_mem, misbinds_iff (Or.inr hop)]
    constructor
    · intro hall
      obtain ⟨first, rest, rfl⟩ := List.exists_cons_of_ne_nil hne
      have hfirst : first ∈ first :: rest := List.mem_cons_self
      exact (hfits first hfirst).mp (hall first hfirst)
    · intro hbound value hvalue
      exact (hfits value hvalue).mpr hbound

theorem range_fits (hf : rule.field.WellFormed) (hop : rule.operator.isRange = true)
    (hlegal : rule.operator.isLegalFor rule.field.type = true) {value bound : Scalar}
    {variant : Variant} (hsuits : value.Suits rule.field)
    (hbound : rule.field.rangeOperand? value = some (variant, bound)) :
    ∀ leaf ∈ (QueryTree.leafOn rule.field variant
      (.range (QueryTree.boundsFor rule.operator bound))).leaves, leaf.Fits rule.field := by
  have hfits : variant ∈ rule.field.variants ∧
      bound.Fits rule.field.dateFormats variant.kind := by
    by_cases hdate : rule.field.type = .date
    · obtain ⟨t, rfl⟩ := hsuits.eq_date hdate
      obtain ⟨-, format, -, s, hread⟩ := hsuits
      obtain ⟨found, hfound, h⟩ := Option.map_eq_some_iff.mp hbound
      cases h
      have hkind : variant ∈ rule.field.variants ∧
          (variant.kind = .date ∨ variant.kind.isEpoch = true) := by
        rcases orElse_eq_some hfound with h | h
        · have hepoch := List.find?_some h
          exact ⟨List.mem_of_find?_eq_some h, Or.inr hepoch⟩
        · have hdate := List.find?_some h
          exact ⟨List.mem_of_find?_eq_some h, Or.inl (of_decide_eq_true hdate)⟩
      exact ⟨hkind.1, Field.storedDate_fits hf hdate hkind.2 (DateFormat.read?_isRepresented hread)⟩
    · have hnumeric := (Operator.rootKind_of_isRange hop hlegal).resolve_right hdate
      have hstring : rule.field.type ≠ .string := by
        intro h
        rw [h] at hnumeric
        cases hnumeric
      have hvalue : value.Fits rule.field.dateFormats .numeric := by
        rw [← hnumeric]
        exact (hsuits.fits_rootKind hdate hstring).2
      have hnodate : ∀ t, value ≠ .date t := fun t h => hdate (h ▸ hsuits).1
      rw [Field.rangeOperand?_eq hnodate] at hbound
      obtain ⟨found, hfound, h⟩ := Option.map_eq_some_iff.mp hbound
      cases h
      have hkind := List.find?_some hfound
      refine ⟨List.mem_of_find?_eq_some hfound, ?_⟩
      rw [of_decide_eq_true hkind]
      exact hvalue
  rw [QueryTree.leafOn_fits_iff hf hfits.1, Condition.values, Bounds.values_boundsFor hop]
  exact List.forall_mem_singleton.mpr hfits.2

theorem Binds.fits_iff {tree : QueryTree} (h : rule.Binds tree) (hf : rule.field.WellFormed)
    (hlegal : rule.operator.isLegalFor rule.field.type = true) :
    (∀ leaf ∈ tree.leaves, leaf.Fits rule.field) ↔ ¬rule.Misbinds := by
  cases h with
  | presence hop =>
    refine iff_of_true ?_ (not_misbinds_of_op (by rw [hop]; decide) (by rw [hop]; decide))
    exact QueryTree.leafOn_fits hf rule.field.comparedVariant_mem rfl
  | equality hop hsuits htree => exact equality_fits_iff hf hop hsuits htree
  | membership hop hne hsuit =>
    rw [hop] at hlegal
    exact membership_fits_iff hf hop (Operator.not_date_of_isIn hlegal) hne hsuit
  | words hop hvariant =>
    refine iff_of_true ?_ (not_misbinds_of_op (by rw [hop]; decide) (by rw [hop]; decide))
    exact QueryTree.leafOn_fits hf (List.mem_of_find?_eq_some hvariant) rfl
  | start hop hvariant =>
    refine iff_of_true ?_ (not_misbinds_of_op (by rw [hop]; decide) (by rw [hop]; decide))
    exact QueryTree.leafOn_fits hf (List.mem_of_find?_eq_some hvariant) rfl
  | pattern hop hvariant =>
    refine iff_of_true ?_ (not_misbinds_of_op (by rw [hop]; decide) (by rw [hop]; decide))
    exact QueryTree.leafOn_fits hf (List.mem_of_find?_eq_some hvariant) rfl
  | range hop hsuits hbound =>
    refine iff_of_true (range_fits hf hop hlegal hsuits hbound) ?_
    apply not_misbinds_of_op
    · intro h
      rw [h] at hop
      cases hop
    · intro h
      rw [h] at hop
      cases hop

end CheckedRule

namespace Rule

/-- Every leaf of a rule names a variant of its field, and carries values as this variant stores
them, unless the rule compares whole values of a text field with numbers or truth values. -/
theorem leaves_fit_iff {source : Json} {mapping : Mapping} {version : Nat} {rule : Rule}
    {checked : CheckedRule} {tree : QueryTree} (hkeys : source.KeysDistinct)
    (hread : Mapping.ofJson source = .ok mapping)
    (hchecked : check (Catalog.ofMapping mapping version) rule = .ok checked)
    (htree : QueryTree.ofRule checked = .ok tree) :
    (∀ leaf ∈ tree.leaves, leaf.Fits checked.field) ↔ ¬checked.Misbinds := by
  obtain ⟨hfield, -, hlegal, hoperand, -⟩ := check_eq_ok hchecked
  have hf := Catalog.lookup?_wellFormed hkeys hread hfield
  obtain ⟨positive, hpositive, rfl⟩ := QueryTree.ofRule_eq_ok htree
  have hbinds := QueryTree.binds_of_positive? (Operand.ofValue_suits hf hoperand) hpositive
  rw [← hbinds.fits_iff hf hlegal]
  split
  · rw [QueryTree.leaves]
  · rfl

/-- A rule on a text field with a numeric variant below it. -/
def textRule : Rule where
  field := "note"
  operator := "equals"
  value := .str "7"

def checkedTextRule : CheckedRule where
  field := Mapping.sampleText
  operator := .equals
  operand := .single (.text "7")
  isNegated := false

theorem check_textRule :
    check (Catalog.ofMapping Mapping.sample 1) textRule = .ok checkedTextRule := by
  decide +kernel

/-- The text is compared with numbers. -/
theorem textRule_misfits :
    ∃ tree, QueryTree.ofRule checkedTextRule = .ok tree ∧
      tree.leaves = [⟨"note", "note.size", .term (.text "7")⟩] ∧
      ¬∀ leaf ∈ tree.leaves, leaf.Fits Mapping.sampleText := by
  have htree : QueryTree.ofRule checkedTextRule =
      .ok (.leaf ⟨"note", "note.size", .term (.text "7")⟩) := rfl
  refine ⟨_, htree, rfl, ?_⟩
  intro hfits
  have hmisbinds : checkedTextRule.Misbinds := ⟨rfl, Or.inl rfl, Or.inl rfl⟩
  exact (leaves_fit_iff Mapping.keysDistinct_sampleSource Mapping.ofJson_sampleSource
    check_textRule htree).mp hfits hmisbinds

end Rule

end ReportSearch
