import ReportSearch.Proofs.Search.DateWindow

/-!
# Whether the reported time is asked for

A plan reports the time that its search covers. Each end of it comes from a rule or is bounded by
the filter, unless the field that the settings name for dates is declared but has no variant that
compares dates: then a time is reported, and nothing asks for it.
-/

set_option autoImplicit false

namespace ReportSearch

open Attempts

namespace SearchPlan

/-- A rule of the request sets the instant, or the filter of the plan bounds the field by it. -/
def Asks (plan : SearchPlan) (request : SearchRequest) (field : Field) (ops : List Operator)
    (side : Bounds → Option Scalar) (t : Instant) : Prop :=
  request.Sets field ops t ∨
    ∃ variant ∈ field.variants, ∃ bounds,
      plan.request.dateFilter = some (QueryTree.leafOn field variant (.range bounds)) ∧
      side bounds = some (field.storedDate variant t)

/-- Both ends of the time that a plan reports are asked for. -/
structure CoversRange (catalog : Catalog) (settings : SearchSettings) (request : SearchRequest)
    (plan : SearchPlan) : Prop where
  lower : ∀ t, plan.dateRange.lower = some t →
    ∃ field, catalog.lookup? settings.dateField = some field ∧
      plan.Asks request field Operator.fromBelow Bounds.gte t
  upper : ∀ t, plan.dateRange.upper = some t →
    ∃ field, catalog.lookup? settings.dateField = some field ∧
      plan.Asks request field Operator.fromAbove Bounds.lte t

section Planned

variable {source : Json} {mapping : Mapping} {version : Nat} {settings : SearchSettings}
  {now t : Instant} {request : SearchRequest} {plan : SearchPlan} {field : Field}
  {ops : List Operator} {variant : Variant} {bounds : Bounds} {side : Bounds → Option Scalar}

theorem asks_of_closes (hset : request.Sets field ops t ∨ request.LeavesOpen field ops)
    (htimed : field.IsTimed variant)
    (hfilter : plan.request.dateFilter = some (QueryTree.leafOn field variant (.range bounds)))
    (hcloses : request.Closes field ops (field.storedDate variant t) (side bounds)) :
    plan.Asks request field ops side t := by
  rcases hset with hset | hopen
  · exact Or.inl hset
  · rcases hcloses with ⟨-, hbound⟩ | ⟨hnot, -⟩
    · exact Or.inr ⟨variant, htimed.mem, bounds, hfilter, hbound⟩
    · exact absurd hopen hnot

theorem window_of_undeclared
    (hlookup : (Catalog.ofMapping mapping version).lookup? settings.dateField = none)
    (hplan : ofRequest (Catalog.ofMapping mapping version) settings now request = .ok plan) :
    plan.dateRange = ⟨none, none⟩ ∧ plan.request.dateFilter = none := by
  obtain ⟨-, -, checked, query, facets, columns, -, -, -, rfl⟩ := ofRequest_eq_ok hplan
  simp only [dateWindow, hlookup, and_self]

theorem window_of_incomparable (hf : field.WellFormed)
    (hlookup : (Catalog.ofMapping mapping version).lookup? settings.dateField = some field)
    (hplan : ofRequest (Catalog.ofMapping mapping version) settings now request = .ok plan)
    (hnot : ¬field.ComparesDates) :
    (∃ since through, plan.dateRange = ⟨some since, some through⟩) ∧
      plan.request.dateFilter = none ∧ ∀ ops t, ¬request.Sets field ops t := by
  obtain ⟨since, through, hrange, -, -, hnone, -⟩ := window_of_planned hf hlookup hplan
  refine ⟨⟨since, through, hrange⟩, hnone.mpr (Or.inr hnot), ?_⟩
  rintro ops t ⟨rule, -, hsets⟩
  exact hnot (hf.comparesDates (hsets.type_eq hf))

theorem coversRange_of_comparesDates (hf : field.WellFormed)
    (hlookup : (Catalog.ofMapping mapping version).lookup? settings.dateField = some field)
    (hplan : ofRequest (Catalog.ofMapping mapping version) settings now request = .ok plan)
    (hcompares : field.ComparesDates) :
    plan.CoversRange (Catalog.ofMapping mapping version) settings request := by
  obtain ⟨since, through, hrange, hends, hstarts, hnone, hsome⟩ :=
    window_of_planned hf hlookup hplan
  have hbelow := hstarts.imp And.left And.left
  have habove := hends.imp And.left And.left
  have hasks : plan.Asks request field Operator.fromBelow Bounds.gte since ∧
      plan.Asks request field Operator.fromAbove Bounds.lte through := by
    cases hfilter : plan.request.dateFilter with
    | none =>
      -- Without a filter, neither side is open.
      obtain ⟨hlower, hupper⟩ := (hnone.mp hfilter).resolve_right (not_not_intro hcompares)
      exact ⟨Or.inl (hbelow.resolve_right hlower), Or.inl (habove.resolve_right hupper)⟩
    | some filter =>
      obtain ⟨variant, bounds, htimed, rfl, -, -, hlower, hupper⟩ := hsome filter hfilter
      exact ⟨asks_of_closes hbelow htimed hfilter hlower,
        asks_of_closes habove htimed hfilter hupper⟩
  constructor
  · intro t ht
    rw [hrange] at ht
    cases ht
    exact ⟨field, hlookup, hasks.1⟩
  · intro t ht
    rw [hrange] at ht
    cases ht
    exact ⟨field, hlookup, hasks.2⟩

/-- The reported time is asked for exactly when the date field of the settings, if it is declared,
has a variant that compares dates. If it has none, a time is reported although no rule and no filter
asks for any. -/
theorem coversRange_iff (hkeys : source.KeysDistinct) (hread : Mapping.ofJson source = .ok mapping)
    (hplan : ofRequest (Catalog.ofMapping mapping version) settings now request = .ok plan) :
    (plan.CoversRange (Catalog.ofMapping mapping version) settings request ↔
      ∀ field, (Catalog.ofMapping mapping version).lookup? settings.dateField = some field →
        field.ComparesDates) ∧
    ∀ field, (Catalog.ofMapping mapping version).lookup? settings.dateField = some field →
      ¬field.ComparesDates →
        (∃ since through, plan.dateRange = ⟨some since, some through⟩) ∧
          plan.request.dateFilter = none ∧ ∀ ops t, ¬request.Sets field ops t := by
  have hincomparable : ∀ field,
      (Catalog.ofMapping mapping version).lookup? settings.dateField = some field →
        ¬field.ComparesDates → (∃ since through, plan.dateRange = ⟨some since, some through⟩) ∧
          plan.request.dateFilter = none ∧ ∀ ops t, ¬request.Sets field ops t := by
    intro field hlookup hnot
    have hf := Catalog.lookup?_wellFormed hkeys hread hlookup
    exact window_of_incomparable hf hlookup hplan hnot
  refine ⟨?_, hincomparable⟩
  constructor
  · intro hcovers field hlookup
    by_contra hnot
    obtain ⟨⟨since, through, hrange⟩, hfilter, hsets⟩ := hincomparable field hlookup hnot
    obtain ⟨found, hfound, hasks⟩ := hcovers.lower since (by rw [hrange])
    cases hlookup.symm.trans hfound
    rcases hasks with hset | ⟨variant, -, bounds, hsome, -⟩
    · exact hsets _ _ hset
    · cases hfilter.symm.trans hsome
  · intro hcompares
    cases hlookup : (Catalog.ofMapping mapping version).lookup? settings.dateField with
    | some field =>
      have hf := Catalog.lookup?_wellFormed hkeys hread hlookup
      exact coversRange_of_comparesDates hf hlookup hplan (hcompares field hlookup)
    | none =>
      obtain ⟨hrange, -⟩ := window_of_undeclared hlookup hplan
      constructor
      · intro t ht
        rw [hrange] at ht
        cases ht
      · intro t ht
        rw [hrange] at ht
        cases ht

end Planned

/-- A field of words that are kept as they are. -/
def productSource : Json :=
  .obj [("properties", .obj [("product", .obj [("type", .str "keyword")])])]

def productField : Field where
  name := "product"
  type := .keyword
  rootVariant := .root "product" .exact none
  otherVariants := []

def productMapping : Mapping where
  fields := [productField]
  defaultColumns := []
  versionTag := none

/-- Where settings name this field for dates, a time is reported that nothing asks for. -/
theorem productField_not_covered :
    let catalog := Catalog.ofMapping productMapping 1
    let settings : SearchSettings := { dateField := "product" }
    productSource.KeysDistinct ∧ Mapping.ofJson productSource = .ok productMapping ∧
      ∃ plan since through, ofRequest catalog settings ⟨1700000000, 0⟩ {} = .ok plan ∧
        plan.dateRange = ⟨some since, some through⟩ ∧ plan.request.dateFilter = none ∧
        ¬plan.CoversRange catalog settings {} := by
  intro catalog settings
  have hkeys : productSource.KeysDistinct := by decide
  have hread : Mapping.ofJson productSource = .ok productMapping := by decide +kernel
  have hlookup : catalog.lookup? settings.dateField = some productField := by decide
  have hnot : ¬productField.ComparesDates := by
    rintro ⟨variant, hvariant, hkind⟩
    cases List.mem_singleton.mp hvariant
    rcases hkind with hkind | hkind <;> cases hkind
  have hok : (ofRequest catalog settings ⟨1700000000, 0⟩ {}).isOk = true := by decide +kernel
  obtain ⟨plan, hplan⟩ := exists_of_isOk hok
  obtain ⟨hcovers, hincomparable⟩ := coversRange_iff hkeys hread hplan
  obtain ⟨⟨since, through, hrange⟩, hfilter, -⟩ := hincomparable productField hlookup hnot
  exact ⟨hkeys, hread, plan, since, through, hplan, hrange, hfilter,
    fun h => hnot (hcovers.mp h productField hlookup)⟩

end SearchPlan

end ReportSearch
