import ReportSearch.Proofs.Query.DateFilter
import ReportSearch.Proofs.Rule.DateBound
import ReportSearch.Proofs.Search.Completeness
import ReportSearch.Proofs.Time.Span

/-!
# The time that a search covers

Rules on the date field that are not negated bound the time of a search, equality on both sides. The
plan takes the narrowest bound of either side, and sets one itself where the rules leave a side
open: then a filter has to apply it, on a variant of the field that compares dates.
-/

set_option autoImplicit false

namespace ReportSearch

open Attempts

/-- The instants that the rules of a request set for a field with some operators. -/
def SearchRequest.Sets (request : SearchRequest) (field : Field) (ops : List Operator)
    (t : Instant) : Prop :=
  ∃ rule ∈ request.rules, rule.Sets field ops t

def SearchRequest.LeavesOpen (request : SearchRequest) (field : Field) (ops : List Operator) :
    Prop :=
  ∀ t, ¬request.Sets field ops t

namespace SearchPlan

theorem operand_eq_of_instant? {operand : Operand} {scalar : Scalar} {t : Instant}
    (hscalar : operand.single? = some scalar) (ht : scalar.instant? = some t) :
    operand = .single (.date t) := by
  cases operand with
  | single found =>
    cases hscalar
    cases scalar <;> cases ht
    rfl
  | _ => cases hscalar

theorem mem_dateBounds_iff {name : String} {rules : List CheckedRule} {op : Operator}
    {t : Instant} : (op, t) ∈ dateBounds name rules ↔ ∃ rule ∈ rules,
      rule.isNegated = false ∧ rule.field.name = name ∧ rule.operator = op ∧
        rule.operand = .single (.date t) := by
  unfold dateBounds
  rw [List.mem_filterMap]
  refine exists_congr fun rule => and_congr_right fun _ => ?_
  constructor
  · intro h
    split at h
    · rename_i hcounts
      rw [Bool.and_eq_true, decide_eq_true_iff, Bool.not_eq_true'] at hcounts
      obtain ⟨u, hu, heq⟩ := Option.map_eq_some_iff.mp h
      cases heq
      obtain ⟨scalar, hscalar, hdate⟩ := Option.bind_eq_some_iff.mp hu
      exact ⟨hcounts.2, hcounts.1, rfl, operand_eq_of_instant? hscalar hdate⟩
    · cases h
  · rintro ⟨haffirmed, hname, rfl, hdated⟩
    simp [haffirmed, hname, hdated, Operand.single?, Scalar.instant?]

theorem latest?_eq_some_iff {ts : List Instant} {t : Instant} :
    latest? ts = some t ↔ Instant.IsLatest (· ∈ ts) t := by
  cases ts with
  | nil => simp [latest?, Instant.IsLatest]
  | cons first rest =>
    have hlast : Instant.IsLatest (· ∈ first :: rest) (rest.foldl Instant.max first) :=
      Instant.foldl_choice (R := fun a b => a.le b = true) Instant.le_refl Instant.le_trans
        Instant.max_cases first rest
    rw [latest?, Option.some.injEq]
    constructor
    · rintro rfl
      exact hlast
    · exact hlast.unique

theorem earliest?_eq_some_iff {ts : List Instant} {t : Instant} :
    earliest? ts = some t ↔ Instant.IsEarliest (· ∈ ts) t := by
  cases ts with
  | nil => simp [earliest?, Instant.IsEarliest]
  | cons first rest =>
    have hfirst : Instant.IsEarliest (· ∈ first :: rest) (rest.foldl Instant.min first) :=
      Instant.foldl_choice (R := fun a b => b.le a = true) Instant.le_refl
        (fun hab hbc => Instant.le_trans hbc hab) Instant.min_cases first rest
    rw [earliest?, Option.some.injEq]
    constructor
    · rintro rfl
      exact hfirst
    · exact hfirst.unique

theorem latest?_eq_none_iff {ts : List Instant} : latest? ts = none ↔ ∀ t, t ∉ ts := by
  cases ts with
  | nil => simp [latest?]
  | cons first rest => exact iff_of_false (by simp [latest?]) fun h => h first List.mem_cons_self

theorem earliest?_eq_none_iff {ts : List Instant} : earliest? ts = none ↔ ∀ t, t ∉ ts := by
  cases ts with
  | nil => simp [earliest?]
  | cons first rest =>
    exact iff_of_false (by simp [earliest?]) fun h => h first List.mem_cons_self

section Bounds

variable {catalog : Catalog} {field : Field} {request : SearchRequest} {checked : List CheckedRule}
  {t : Instant}

theorem mem_times_iff {ops : List Operator} {test : Operator → Bool}
    (htest : ∀ op, op ∈ ops ↔ test op = true) (hops : ∀ op ∈ ops, op.Compares)
    (hf : field.WellFormed) (hfield : catalog.lookup? field.name = some field)
    (hchecked : List.Forall₂ (fun rule found => Rule.check catalog rule = .ok found)
      request.rules checked) :
    t ∈ ((dateBounds field.name checked).filter fun bound => test bound.1).map Prod.snd ↔
      request.Sets field ops t := by
  rw [List.mem_map]
  constructor
  · rintro ⟨⟨op, u⟩, hmem, rfl⟩
    obtain ⟨hbound, hop⟩ := List.mem_filter.mp hmem
    obtain ⟨found, hfound, haffirmed, hname, rfl, hdated⟩ := mem_dateBounds_iff.mp hbound
    obtain ⟨rule, hrule, hcheck⟩ := exists_of_mem_right hchecked found hfound
    exact ⟨rule, hrule, (Rule.sets_iff_of_check hf hfield hops hcheck).mpr
      ⟨haffirmed, hname, (htest _).mpr hop, hdated⟩⟩
  · rintro ⟨rule, hrule, hsets⟩
    obtain ⟨found, hfound, hcheck⟩ := exists_of_mem_left hchecked rule hrule
    obtain ⟨haffirmed, hname, hop, hdated⟩ :=
      (Rule.sets_iff_of_check hf hfield hops hcheck).mp hsets
    have hbound := mem_dateBounds_iff.mpr ⟨found, hfound, haffirmed, hname, rfl, hdated⟩
    exact ⟨_, List.mem_filter.mpr ⟨hbound, (htest _).mp hop⟩, rfl⟩

variable (hf : field.WellFormed) (hfield : catalog.lookup? field.name = some field)
  (hchecked : List.Forall₂ (fun rule found => Rule.check catalog rule = .ok found)
    request.rules checked)
include hf hfield hchecked

theorem lowerBound?_eq_some_iff : lowerBound? (dateBounds field.name checked) = some t ↔
    Instant.IsLatest (request.Sets field Operator.fromBelow) t := by
  have hmem := fun t => mem_times_iff (t := t) (fun _ => Operator.mem_fromBelow_iff)
    (fun _ => Operator.compares_of_mem_fromBelow) hf hfield hchecked
  simp only [lowerBound?, latest?_eq_some_iff, hmem]

theorem lowerBound?_eq_none_iff : lowerBound? (dateBounds field.name checked) = none ↔
    request.LeavesOpen field Operator.fromBelow := by
  have hmem := fun t => mem_times_iff (t := t) (fun _ => Operator.mem_fromBelow_iff)
    (fun _ => Operator.compares_of_mem_fromBelow) hf hfield hchecked
  simp only [lowerBound?, latest?_eq_none_iff, hmem, SearchRequest.LeavesOpen]

theorem upperBound?_eq_some_iff : upperBound? (dateBounds field.name checked) = some t ↔
    Instant.IsEarliest (request.Sets field Operator.fromAbove) t := by
  have hmem := fun t => mem_times_iff (t := t) (fun _ => Operator.mem_fromAbove_iff)
    (fun _ => Operator.compares_of_mem_fromAbove) hf hfield hchecked
  simp only [upperBound?, earliest?_eq_some_iff, hmem]

theorem upperBound?_eq_none_iff : upperBound? (dateBounds field.name checked) = none ↔
    request.LeavesOpen field Operator.fromAbove := by
  have hmem := fun t => mem_times_iff (t := t) (fun _ => Operator.mem_fromAbove_iff)
    (fun _ => Operator.compares_of_mem_fromAbove) hf hfield hchecked
  simp only [upperBound?, earliest?_eq_none_iff, hmem, SearchRequest.LeavesOpen]

end Bounds

end SearchPlan

namespace SearchRequest

variable {request : SearchRequest} {field : Field} {ops : List Operator}

/-- A bound of a filter stands for a side that the rules leave open, and for no other side. -/
def Closes (request : SearchRequest) (field : Field) (ops : List Operator) (stored : Scalar)
    (bound : Option Scalar) : Prop :=
  request.LeavesOpen field ops ∧ bound = some stored ∨
    ¬request.LeavesOpen field ops ∧ bound = none

/-- What a filter asks of the time of a search. -/
def IsFilteredBy (request : SearchRequest) (field : Field) (since through : Instant)
    (filter : QueryTree) : Prop :=
  ∃ variant bounds, field.IsTimed variant ∧
    filter = QueryTree.leafOn field variant (.range bounds) ∧
    bounds.gt = none ∧ bounds.lt = none ∧
    request.Closes field Operator.fromBelow (field.storedDate variant since) bounds.gte ∧
    request.Closes field Operator.fromAbove (field.storedDate variant through) bounds.lte

/-- Where a search starts and ends. -/
structure Spans (request : SearchRequest) (field : Field) (now : Instant) (days : Int)
    (since through : Instant) : Prop where
  ends : Instant.IsEarliest (request.Sets field Operator.fromAbove) through ∨
    request.LeavesOpen field Operator.fromAbove ∧ through = now
  starts : Instant.IsLatest (request.Sets field Operator.fromBelow) since ∨
    request.LeavesOpen field Operator.fromBelow ∧ through.IsDaysBefore days since

/-- Bounds for the sides that are left open, where `found` is what the rules set. -/
theorem closes_map {found : Option Instant} (hopen : found = none ↔ request.LeavesOpen field ops)
    (store : Instant → Scalar) (t : Instant) :
    request.Closes field ops (store t) ((if found.isNone then some t else none).map store) := by
  cases found with
  | none => exact Or.inl ⟨hopen.mp rfl, rfl⟩
  | some u => exact Or.inr ⟨fun h => absurd (hopen.mpr h) (Option.some_ne_none u), rfl⟩

theorem open_eq_none_iff {found : Option Instant}
    (hopen : found = none ↔ request.LeavesOpen field ops) (t : Instant) :
    (if found.isNone then some t else none) = none ↔ ¬request.LeavesOpen field ops := by
  rw [← hopen]
  cases found <;> simp

end SearchRequest

namespace SearchPlan

section Window

variable {catalog : Catalog} {settings : SearchSettings} {now : Instant} {request : SearchRequest}
  {field : Field} {checked : List CheckedRule}

theorem dateWindow_of_lookup? (hf : field.WellFormed)
    (hlookup : catalog.lookup? settings.dateField = some field)
    (hchecked : List.Forall₂ (fun rule found => Rule.check catalog rule = .ok found)
      request.rules checked) :
    ∃ since through,
      (dateWindow catalog settings checked now).1 = ⟨some since, some through⟩ ∧
      (Instant.IsEarliest (request.Sets field Operator.fromAbove) through ∨
        request.LeavesOpen field Operator.fromAbove ∧ through = now) ∧
      (Instant.IsLatest (request.Sets field Operator.fromBelow) since ∨
        request.LeavesOpen field Operator.fromBelow ∧
          since = (through.daysBefore? settings.defaultDays).getD Instant.earliest) ∧
      ((dateWindow catalog settings checked now).2 = none ↔
        ¬request.LeavesOpen field Operator.fromBelow ∧
          ¬request.LeavesOpen field Operator.fromAbove ∨ ¬field.ComparesDates) ∧
      ∀ filter, (dateWindow catalog settings checked now).2 = some filter →
        request.IsFilteredBy field since through filter := by
  have hfield : catalog.lookup? field.name = some field := by
    rw [Catalog.name_of_lookup? hlookup, hlookup]
  have hlower := lowerBound?_eq_none_iff hf hfield hchecked
  have hupper := upperBound?_eq_none_iff hf hfield hchecked
  simp only [dateWindow, hlookup]
  refine ⟨_, _, rfl, ?_, ?_, ?_, ?_⟩
  · cases hbound : upperBound? (dateBounds field.name checked) with
    | none => exact Or.inr ⟨hupper.mp hbound, rfl⟩
    | some t => exact Or.inl ((upperBound?_eq_some_iff hf hfield hchecked).mp hbound)
  · cases hbound : lowerBound? (dateBounds field.name checked) with
    | none => exact Or.inr ⟨hlower.mp hbound, rfl⟩
    | some t => exact Or.inl ((lowerBound?_eq_some_iff hf hfield hchecked).mp hbound)
  · rw [QueryTree.dateWindow?_eq_none_iff, SearchRequest.open_eq_none_iff hlower,
      SearchRequest.open_eq_none_iff hupper]
  · intro filter hfilter
    obtain ⟨variant, htimed, rfl⟩ := QueryTree.dateWindow?_eq_some hfilter
    exact ⟨variant, _, htimed, rfl, rfl, rfl, SearchRequest.closes_map hlower _ _,
      SearchRequest.closes_map hupper _ _⟩

end Window

end SearchPlan

/-- Rules among which are all those of a request, in any order and number, and others that are
answered but that are negated or on another field. -/
structure SearchRequest.Extends (catalog : Catalog) (field : Field) (request : SearchRequest)
    (rules : List Rule) : Prop where
  kept : ∀ rule ∈ request.rules, rule ∈ rules
  others : ∀ rule ∈ rules, rule ∈ request.rules ∨
    (rule.isNegated = true ∨ rule.field ≠ field.name) ∧ ∃ tree, rule.tree catalog = .ok tree
  length_le : rules.length ≤ mostRules

namespace SearchRequest

variable {catalog : Catalog} {request : SearchRequest} {field : Field} {rules : List Rule}
  {ops : List Operator} {t : Instant}

theorem Extends.sets_iff (h : request.Extends catalog field rules) :
    { request with rules }.Sets field ops t ↔ request.Sets field ops t := by
  constructor
  · rintro ⟨rule, hrule, hsets⟩
    rcases h.others rule hrule with hrule | ⟨hnegated | hother, -⟩
    · exact ⟨rule, hrule, hsets⟩
    · rw [hsets.affirmed] at hnegated
      cases hnegated
    · exact absurd hsets.named hother
  · rintro ⟨rule, hrule, hsets⟩
    exact ⟨rule, h.kept rule hrule, hsets⟩

theorem Extends.sizeFaults (h : request.Extends catalog field rules)
    (hsizes : request.sizeFaults = []) : { request with rules }.sizeFaults = [] := by
  simp only [SearchRequest.sizeFaults, List.append_eq_nil_iff, ite_eq_right_iff] at hsizes ⊢
  obtain ⟨hothers, -⟩ := hsizes
  exact ⟨hothers, fun hlong => absurd h.length_le (Nat.not_le.mpr hlong)⟩

theorem Extends.isResolved (h : request.Extends catalog field rules)
    (hresolved : request.IsResolved catalog) : { request with rules }.IsResolved catalog where
  rules := by
    intro rule hrule
    rcases h.others rule hrule with hrule | ⟨-, htree⟩
    · exact hresolved.rules rule hrule
    · exact htree
  facets := hresolved.facets
  columns := hresolved.columns

end SearchRequest

namespace SearchPlan

theorem dateWindow_congr {catalog : Catalog} {settings : SearchSettings} {now : Instant}
    {request other : SearchRequest} {field : Field} {checked found : List CheckedRule}
    (hf : field.WellFormed) (hlookup : catalog.lookup? settings.dateField = some field)
    (hsets : ∀ ops t, other.Sets field ops t ↔ request.Sets field ops t)
    (hchecked : List.Forall₂ (fun rule found => Rule.check catalog rule = .ok found)
      request.rules checked)
    (hfound : List.Forall₂ (fun rule found => Rule.check catalog rule = .ok found)
      other.rules found) :
    dateWindow catalog settings found now = dateWindow catalog settings checked now := by
  have hfield : catalog.lookup? field.name = some field := by
    rw [Catalog.name_of_lookup? hlookup, hlookup]
  have hsame : ∀ ops, other.Sets field ops = request.Sets field ops :=
    fun ops => funext fun t => propext (hsets ops t)
  have hlower : lowerBound? (dateBounds field.name found) =
      lowerBound? (dateBounds field.name checked) := by
    refine Option.ext fun t => ?_
    rw [lowerBound?_eq_some_iff hf hfield hfound, lowerBound?_eq_some_iff hf hfield hchecked, hsame]
  have hupper : upperBound? (dateBounds field.name found) =
      upperBound? (dateBounds field.name checked) := by
    refine Option.ext fun t => ?_
    rw [upperBound?_eq_some_iff hf hfield hfound, upperBound?_eq_some_iff hf hfield hchecked, hsame]
  simp only [dateWindow, hlookup, hlower, hupper]

section Planned

variable {source : Json} {mapping : Mapping} {version : Nat} {settings : SearchSettings}
  {now : Instant} {request : SearchRequest} {plan : SearchPlan} {field : Field}

theorem planned_of_extends {rules : List Rule} (hf : field.WellFormed)
    (hread : Mapping.ofJson source = .ok mapping)
    (hlookup : (Catalog.ofMapping mapping version).lookup? settings.dateField = some field)
    (hplan : ofRequest (Catalog.ofMapping mapping version) settings now request = .ok plan)
    (hextends : request.Extends (Catalog.ofMapping mapping version) field rules) :
    ∃ extended, ofRequest (Catalog.ofMapping mapping version) settings now
        { request with rules } = .ok extended ∧
      extended.dateRange = plan.dateRange ∧
      extended.request.dateFilter = plan.request.dateFilter := by
  have hresolved := hextends.isResolved (isResolved_of_planned hread hplan)
  obtain ⟨hsizes, hwindow, checked, query, facets, columns, hquery, -, -, rfl⟩ :=
    ofRequest_eq_ok hplan
  rcases ofRequest_of_sizes version now hread (hextends.sizeFaults hsizes) hwindow with
    ⟨hfaults, -⟩ | ⟨-, extended, hextended⟩
  · exact absurd ((SearchRequest.faults_eq_nil_iff _ _).mpr hresolved) hfaults
  · refine ⟨extended, hextended, ?_⟩
    obtain ⟨-, -, found, tree, -, -, htree, -, -, rfl⟩ := ofRequest_eq_ok hextended
    have hsame : dateWindow (Catalog.ofMapping mapping version) settings found now =
        dateWindow (Catalog.ofMapping mapping version) settings checked now :=
      dateWindow_congr hf hlookup (fun _ _ => hextends.sets_iff) (queryOf_eq_some hquery).1
        (queryOf_eq_some htree).1
    exact ⟨congrArg Prod.fst hsame, congrArg Prod.snd hsame⟩

/-- A rule of a planned request that is not negated and compares dates sets an instant. -/
theorem exists_sets_of_planned (hf : field.WellFormed) (hdate : field.type = .date)
    (hlookup : (Catalog.ofMapping mapping version).lookup? settings.dateField = some field)
    (hplan : ofRequest (Catalog.ofMapping mapping version) settings now request = .ok plan)
    {rule : Rule} (hrule : rule ∈ request.rules) (haffirmed : rule.isNegated = false)
    (hnamed : rule.field = field.name) {op : Operator} (hop : op.Compares)
    (htext : Operator.ofText? rule.operator = some op) : ∃ t, rule.Sets field [op] t := by
  obtain ⟨-, -, checked, query, facets, columns, hquery, -⟩ := ofRequest_eq_ok hplan
  obtain ⟨found, -, hcheck⟩ := exists_of_mem_left (queryOf_eq_some hquery).1 rule hrule
  obtain ⟨hfound, hfoundOp, -, hoperand, -⟩ := Rule.check_eq_ok hcheck
  rw [hnamed, Catalog.name_of_lookup? hlookup, hlookup] at hfound
  cases hfound
  obtain rfl : op = found.operator := Option.some.inj (htext.symm.trans hfoundOp)
  rw [Operand.ofValue_compares hop, map_eq_ok_iff] at hoperand
  obtain ⟨scalar, hscalar, -⟩ := hoperand
  obtain ⟨t, rfl⟩ := (Scalar.single_suits hf hscalar).eq_date hdate
  exact ⟨t, haffirmed, hnamed, ⟨_, List.mem_singleton_self _, htext⟩,
    (Scalar.single_eq_date_iff.mp hscalar).2⟩

theorem window_of_planned (hf : field.WellFormed)
    (hlookup : (Catalog.ofMapping mapping version).lookup? settings.dateField = some field)
    (hplan : ofRequest (Catalog.ofMapping mapping version) settings now request = .ok plan) :
    ∃ since through, plan.dateRange = ⟨some since, some through⟩ ∧
      (Instant.IsEarliest (request.Sets field Operator.fromAbove) through ∨
        request.LeavesOpen field Operator.fromAbove ∧ through = now) ∧
      (Instant.IsLatest (request.Sets field Operator.fromBelow) since ∨
        request.LeavesOpen field Operator.fromBelow ∧
          since = (through.daysBefore? settings.defaultDays).getD Instant.earliest) ∧
      (plan.request.dateFilter = none ↔
        ¬request.LeavesOpen field Operator.fromBelow ∧
          ¬request.LeavesOpen field Operator.fromAbove ∨ ¬field.ComparesDates) ∧
      ∀ filter, plan.request.dateFilter = some filter →
        request.IsFilteredBy field since through filter := by
  obtain ⟨-, -, checked, query, facets, columns, hquery, -, -, rfl⟩ := ofRequest_eq_ok hplan
  exact dateWindow_of_lookup? hf hlookup (queryOf_eq_some hquery).1

theorem isRepresented_of_ends {through : Instant} (hnow : now.IsRepresented)
    (hends : Instant.IsEarliest (request.Sets field Operator.fromAbove) through ∨
      request.LeavesOpen field Operator.fromAbove ∧ through = now) : through.IsRepresented := by
  rcases hends with ⟨⟨rule, -, hsets⟩, -⟩ | ⟨-, rfl⟩
  · exact Scalar.readDate?_isRepresented hsets.value
  · exact hnow

/-- A search covers the time from the latest instant that its rules set from below to the earliest
one that they set from above; its filter bounds the sides that they leave open, by the clock and by
the days of the settings. -/
theorem dateWindow_of_planned (hkeys : source.KeysDistinct)
    (hread : Mapping.ofJson source = .ok mapping) (hnow : now.IsRepresented)
    (hlookup : (Catalog.ofMapping mapping version).lookup? settings.dateField = some field)
    (hdate : field.type = .date)
    (hplan : ofRequest (Catalog.ofMapping mapping version) settings now request = .ok plan) :
    ∃ since through, plan.dateRange = ⟨some since, some through⟩ ∧
      request.Spans field now settings.defaultDays since through ∧
      (0 ≤ settings.defaultDays → request.LeavesOpen field Operator.fromBelow →
        since.le through = true) ∧
      (plan.request.dateFilter = none ↔
        ¬request.LeavesOpen field Operator.fromBelow ∧
          ¬request.LeavesOpen field Operator.fromAbove) ∧
      (∀ filter, plan.request.dateFilter = some filter →
        request.IsFilteredBy field since through filter) ∧
      (∀ rule ∈ request.rules, rule.isNegated = false → rule.field = field.name →
        ∀ op : Operator, op.Compares → Operator.ofText? rule.operator = some op →
          ∃ t, rule.Sets field [op] t) ∧
      ∀ rules, request.Extends (Catalog.ofMapping mapping version) field rules →
        ∃ extended, ofRequest (Catalog.ofMapping mapping version) settings now
            { request with rules } = .ok extended ∧
          extended.dateRange = plan.dateRange ∧
          extended.request.dateFilter = plan.request.dateFilter := by
  have hf := Catalog.lookup?_wellFormed hkeys hread hlookup
  obtain ⟨since, through, hrange, hends, hstarts, hnone, hsome⟩ :=
    window_of_planned hf hlookup hplan
  have hthrough := isRepresented_of_ends hnow hends
  have hbefore := Instant.isDaysBefore_getD hthrough settings.defaultDays
  have hspans : request.Spans field now settings.defaultDays since through := by
    refine ⟨hends, hstarts.imp_right ?_⟩
    rintro ⟨hopen, rfl⟩
    exact ⟨hopen, hbefore⟩
  refine ⟨since, through, hrange, hspans, ?_, ?_, hsome, ?_, ?_⟩
  · intro hdays hopen
    rcases hspans.starts with ⟨hsets, -⟩ | ⟨-, hdaysBefore⟩
    · exact absurd hsets (hopen since)
    · exact hdaysBefore.le hthrough hdays
  · exact hnone.trans (or_iff_left (not_not_intro (hf.comparesDates hdate)))
  · intro rule hrule haffirmed hnamed op hop htext
    exact exists_sets_of_planned hf hdate hlookup hplan hrule haffirmed hnamed hop htext
  · intro rules hextends
    exact planned_of_extends hf hread hlookup hplan hextends

end Planned

/-- Two bounds from below, and one from above that does not count. -/
def boundedRequest : SearchRequest where
  rules :=
    [{ field := "seen", operator := ">=", value := .str "2023-11-01T00:00:00Z" },
     { field := "seen", operator := ">", value := .str "2023-10-01T00:00:00Z" },
     { field := "seen", operator := "<=", value := .str "2023-10-15T00:00:00Z", isNegated := true }]

/-- The window of the request is the same when its rules are turned around. -/
theorem boundedRequest_dateWindow :
    let catalog := Catalog.ofMapping Mapping.sample 1
    let settings : SearchSettings := { dateField := "seen" }
    let now : Instant := ⟨1700000000, 0⟩
    Mapping.sampleSource.KeysDistinct ∧
      Mapping.ofJson Mapping.sampleSource = .ok Mapping.sample ∧
      now.IsRepresented ∧ catalog.lookup? settings.dateField = some Mapping.sampleDate ∧
      ∃ plan since through, ofRequest catalog settings now boundedRequest = .ok plan ∧
        plan.dateRange = ⟨some since, some through⟩ ∧
        boundedRequest.Spans Mapping.sampleDate now 7 since through ∧
        ∃ extended, ofRequest catalog settings now
            { boundedRequest with rules := boundedRequest.rules.reverse } = .ok extended ∧
          extended.dateRange = plan.dateRange ∧
          extended.request.dateFilter = plan.request.dateFilter := by
  intro catalog settings now
  have hnow : now.IsRepresented := ⟨by decide, by decide, by decide, Or.inl (by decide)⟩
  have hlookup : catalog.lookup? settings.dateField = some Mapping.sampleDate := by decide
  have hok : (ofRequest catalog settings now boundedRequest).isOk = true := by decide +kernel
  obtain ⟨plan, hplan⟩ := exists_of_isOk hok
  obtain ⟨since, through, hrange, hspans, -, -, -, -, hextends⟩ := dateWindow_of_planned
    Mapping.keysDistinct_sampleSource Mapping.ofJson_sampleSource hnow hlookup rfl hplan
  refine ⟨Mapping.keysDistinct_sampleSource, Mapping.ofJson_sampleSource, hnow, hlookup,
    plan, since, through, hplan, hrange, hspans, hextends _ ⟨?_, ?_, by decide⟩⟩
  · exact fun rule hrule => List.mem_reverse.mpr hrule
  · exact fun rule hrule => Or.inl (List.mem_reverse.mp hrule)

end SearchPlan

end ReportSearch
