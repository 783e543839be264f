import ReportSearch.Proofs.Query.VariantChoice

/-!
# Filters for dates

A range of dates is tested on the first variant that counts time, or on the first one of dates where
none does. A filter for open bounds is missing when there is nothing to bound, but also when no
variant of the field can compare dates.
-/

set_option autoImplicit false

namespace ReportSearch

namespace Field

/-- Whether some variant can tell an earlier date from a later one. -/
def ComparesDates (field : Field) : Prop :=
  ∃ variant ∈ field.variants, variant.kind = .date ∨ variant.kind.isEpoch = true

variable {field : Field}

theorem orElse_eq_none_iff :
    (field.epochVariant? <|> field.dateVariant?) = none ↔ ¬field.ComparesDates := by
  have hnone : (field.epochVariant? <|> field.dateVariant?) = none ↔
      field.epochVariant? = none ∧ field.dateVariant? = none := by
    cases field.epochVariant? <;> simp
  rw [hnone, epochVariant?, dateVariant?, List.find?_eq_none, List.find?_eq_none, ComparesDates]
  constructor
  · rintro ⟨hepoch, hdate⟩ ⟨other, hother, hkind | hkind⟩
    · exact hdate other hother (decide_eq_true hkind)
    · exact hepoch other hother hkind
  · intro h
    constructor
    · exact fun other hother hkind => h ⟨other, hother, Or.inr hkind⟩
    · exact fun other hother hkind => h ⟨other, hother, Or.inl (of_decide_eq_true hkind)⟩

theorem WellFormed.comparesDates (hf : field.WellFormed) (hdate : field.type = .date) :
    field.ComparesDates := by
  refine ⟨field.rootVariant, List.mem_cons_self, Or.inl ?_⟩
  rw [hf.root_kind, hdate]
  rfl

end Field

namespace QueryTree

variable {field : Field} {lower upper : Option Instant} {tree : QueryTree}

/-- Bounds that belong to the range, as a variant stores them. -/
def closedBounds (field : Field) (lower upper : Option Instant) (variant : Variant) : Bounds where
  gte := lower.map (field.storedDate variant)
  lte := upper.map (field.storedDate variant)

theorem dateWindow?_eq : dateWindow? field lower upper =
    (lower <|> upper).bind fun _ => (field.epochVariant? <|> field.dateVariant?).map fun variant =>
      leafOn field variant (.range (closedBounds field lower upper variant)) := by
  unfold dateWindow? Field.rangeOperand?
  cases (lower <|> upper) with
  | none => rfl
  | some probe =>
    cases (field.epochVariant? <|> field.dateVariant?) with
    | none => rfl
    | some variant => rfl

theorem dateWindow?_eq_none_iff : dateWindow? field lower upper = none ↔
    lower = none ∧ upper = none ∨ ¬field.ComparesDates := by
  rw [dateWindow?_eq, ← Field.orElse_eq_none_iff]
  cases lower <;> cases upper <;> simp

theorem dateWindow?_eq_some (h : dateWindow? field lower upper = some tree) :
    ∃ variant, field.IsTimed variant ∧
      tree = leafOn field variant (.range (closedBounds field lower upper variant)) := by
  rw [dateWindow?_eq] at h
  obtain ⟨-, -, h⟩ := Option.bind_eq_some_iff.mp h
  obtain ⟨variant, hvariant, rfl⟩ := Option.map_eq_some_iff.mp h
  exact ⟨variant, Field.isTimed_of_orElse hvariant, rfl⟩

end QueryTree

end ReportSearch
