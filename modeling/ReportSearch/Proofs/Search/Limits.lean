import ReportSearch.Proofs.Search.Planning

/-!
# Limits of a request

A request is refused outright when one of its parts is out of bounds or its page ends past the last
result, whatever its rules, facets and columns are. The page of a planned request has a size between
one and the limit of the settings, and ends within the results, whatever the settings are.
-/

set_option autoImplicit false

namespace ReportSearch

/-- The size that a wanted one is brought to, between one and a limit; a limit of zero is one. -/
structure IsClamped (limit wanted size : Nat) : Prop where
  one_le : 1 ≤ size
  le_limit : size ≤ max 1 limit
  eq_one : wanted < 1 → size = 1
  eq_limit : max 1 limit < wanted → size = max 1 limit
  eq_wanted : 1 ≤ wanted → wanted ≤ max 1 limit → size = wanted

theorem isClamped_clampSize (limit wanted : Nat) :
    IsClamped limit wanted (clampSize limit wanted) := by
  unfold clampSize
  constructor <;> omega

namespace SearchFault

/-- Whether a request is refused as a whole, and not for single parts of it. -/
def isOutright : SearchFault → Bool
  | sizes _ => true
  | beyondWindow .. => true
  | _ => false

end SearchFault

namespace SearchRequest

/-- A request that is too large in one of its parts, asks for an empty page, or for one that ends
past the last result. -/
def Exceeds (settings : SearchSettings) (request : SearchRequest) : Prop :=
  200 < request.rules.length ∨ 50 < request.facets.length ∨ 200 < request.columns.length ∨
    10000 < request.offset ∨ request.limit = some 0 ∨
    10000 < request.offset + SearchPlan.pageSize settings request

/-- Two requests with as many parts of each kind and the same page. -/
structure SameSizes (request other : SearchRequest) : Prop where
  rules : other.rules.length = request.rules.length
  facets : other.facets.length = request.facets.length
  columns : other.columns.length = request.columns.length
  offset : other.offset = request.offset
  limit : other.limit = request.limit

theorem sizeFaults_eq_nil_iff {request : SearchRequest} :
    request.sizeFaults = [] ↔ request.rules.length ≤ 200 ∧ request.facets.length ≤ 50 ∧
      request.columns.length ≤ 200 ∧ request.offset ≤ 10000 ∧ request.limit ≠ some 0 := by
  simp only [sizeFaults, List.append_eq_nil_iff, ite_eq_right_iff, List.cons_ne_nil, imp_false,
    Nat.not_lt]
  constructor
  · rintro ⟨⟨⟨⟨hcolumns, hfacets⟩, hlimit⟩, hoffset⟩, hrules⟩
    exact ⟨hrules, hfacets, hcolumns, hoffset, hlimit⟩
  · rintro ⟨hrules, hfacets, hcolumns, hoffset, hlimit⟩
    exact ⟨⟨⟨⟨hcolumns, hfacets⟩, hlimit⟩, hoffset⟩, hrules⟩

theorem SameSizes.sizeFaults_eq {request other : SearchRequest} (h : request.SameSizes other) :
    other.sizeFaults = request.sizeFaults := by
  simp only [sizeFaults, h.rules, h.facets, h.columns, h.offset, h.limit]

end SearchRequest

namespace SearchPlan

variable {catalog : Catalog} {settings : SearchSettings} {now : Instant}
  {request other : SearchRequest}

/-- What a request is refused for before its parts are looked at. -/
def outrightFault? (settings : SearchSettings) (request : SearchRequest) : Option SearchFault :=
  if request.sizeFaults ≠ [] then some (.sizes request.sizeFaults)
  else if SearchRequest.resultWindow < request.offset + pageSize settings request then
    some (.beyondWindow request.offset (pageSize settings request))
  else none

theorem outrightFault?_eq_none_iff :
    outrightFault? settings request = none ↔ request.sizeFaults = [] ∧
      request.offset + pageSize settings request ≤ SearchRequest.resultWindow := by
  unfold outrightFault?
  split
  · rename_i hsizes
    simp [hsizes]
  · rename_i hsizes
    rw [not_not] at hsizes
    split
    · rename_i hwindow
      simp [Nat.not_le.mpr hwindow]
    · rename_i hwindow
      simp [hsizes, Nat.le_of_not_lt hwindow]

theorem exceeds_iff :
    request.Exceeds settings ↔ ∃ fault, outrightFault? settings request = some fault := by
  have hnone : outrightFault? settings request = none ↔ ¬request.Exceeds settings := by
    rw [outrightFault?_eq_none_iff, SearchRequest.sizeFaults_eq_nil_iff, SearchRequest.Exceeds,
      SearchRequest.resultWindow]
    simp only [not_or, Nat.not_lt, and_assoc, ne_eq]
  rw [← Option.isSome_iff_exists, ← Option.ne_none_iff_isSome, ne_eq, hnone, not_not]

theorem isOutright_of_outrightFault? {fault : SearchFault}
    (h : outrightFault? settings request = some fault) : fault.isOutright = true := by
  unfold outrightFault? at h
  split at h
  · cases h
    rfl
  · split at h
    · cases h
      rfl
    · cases h

theorem outrightFault?_congr (h : request.SameSizes other) :
    outrightFault? settings other = outrightFault? settings request := by
  have hsize : pageSize settings other = pageSize settings request := by
    rw [pageSize, pageSize, h.limit]
  rw [outrightFault?, outrightFault?, h.sizeFaults_eq, h.offset, hsize]

theorem ofRequest_of_outright {fault : SearchFault}
    (h : outrightFault? settings request = some fault) :
    ofRequest catalog settings now request = .error fault := by
  unfold outrightFault? at h
  unfold ofRequest
  split at h
  · rename_i hsizes
    cases h
    simp [hsizes]
  · rename_i hsizes
    rw [not_not] at hsizes
    split at h
    · rename_i hwindow
      cases h
      have hend : SearchRequest.resultWindow < pageEnd settings request :=
        Nat.lt_of_not_le (mt pageEnd_le_iff.mp (Nat.not_le.mpr hwindow))
      simp [hsizes, hend]
    · cases h

theorem ofRequest_of_within (h : outrightFault? settings request = none) :
    (∃ faults, ofRequest catalog settings now request = .error (.invalidParts faults)) ∨
      ∃ plan, ofRequest catalog settings now request = .ok plan := by
  obtain ⟨hsizes, hwindow⟩ := outrightFault?_eq_none_iff.mp h
  have hend := pageEnd_le_iff.mpr hwindow
  unfold ofRequest
  simp only [hsizes, List.isEmpty_nil, Bool.not_true, Bool.false_eq_true, if_false,
    Nat.not_lt.mpr hend]
  split
  · exact Or.inl ⟨_, rfl⟩
  · split
    · exact Or.inl ⟨_, rfl⟩
    · exact Or.inr ⟨_, rfl⟩

theorem page_of_planned {plan : SearchPlan}
    (h : ofRequest catalog settings now request = .ok plan) :
    plan.request.offset = request.offset ∧ plan.request.size = pageSize settings request ∧
      1 ≤ plan.request.size ∧ plan.request.size ≤ max 1 settings.maxLimit ∧
      plan.request.offset + plan.request.size ≤ 10000 := by
  obtain ⟨-, hwindow, checked, query, facets, columns, -, -, -, rfl⟩ := ofRequest_eq_ok h
  have hsize := isClamped_clampSize settings.maxLimit (request.limit.getD settings.defaultLimit)
  exact ⟨rfl, rfl, hsize.one_le, hsize.le_limit, hwindow⟩

theorem isOutright_iff_exceeds :
    (∃ fault, ofRequest catalog settings now request = .error fault ∧ fault.isOutright = true) ↔
      request.Exceeds settings := by
  rw [exceeds_iff]
  constructor
  · rintro ⟨fault, hfault, houtright⟩
    cases hout : outrightFault? settings request with
    | some found => exact ⟨found, rfl⟩
    | none =>
      -- within the limits no fault is outright
      rcases ofRequest_of_within hout with ⟨faults, hparts⟩ | ⟨plan, hplan⟩
      · cases hparts.symm.trans hfault
        cases houtright
      · cases hplan.symm.trans hfault
  · rintro ⟨fault, hfault⟩
    exact ⟨fault, ofRequest_of_outright hfault, isOutright_of_outrightFault? hfault⟩

theorem ofRequest_congr_of_exceeds (hexceeds : request.Exceeds settings)
    (hsame : request.SameSizes other) (catalog' : Catalog) (now' : Instant) :
    ofRequest catalog' settings now' other = ofRequest catalog settings now request := by
  obtain ⟨fault, hfault⟩ := exceeds_iff.mp hexceeds
  have hother : outrightFault? settings other = some fault :=
    (outrightFault?_congr hsame).trans hfault
  exact (ofRequest_of_outright hother).trans (ofRequest_of_outright hfault).symm

/-- A request is refused outright exactly when it exceeds a limit, and then for its sizes alone. The
page that is planned otherwise is the one asked for, brought within the limit of the settings. -/
theorem refused_outright_iff (catalog : Catalog) (settings : SearchSettings) (now : Instant)
    (request : SearchRequest) :
    let outcome := ofRequest catalog settings now request
    ((∃ fault, outcome = .error fault ∧ fault.isOutright = true) ↔ request.Exceeds settings) ∧
    (request.Exceeds settings → ∀ other, request.SameSizes other → ∀ catalog' now',
      ofRequest catalog' settings now' other = outcome) ∧
    (∀ plan, outcome = .ok plan →
      plan.request.offset = request.offset ∧ plan.request.size = pageSize settings request ∧
      1 ≤ plan.request.size ∧ plan.request.size ≤ max 1 settings.maxLimit ∧
      plan.request.offset + plan.request.size ≤ 10000) ∧
    IsClamped settings.maxLimit (request.limit.getD settings.defaultLimit)
      (pageSize settings request) := by
  intro outcome
  refine ⟨isOutright_iff_exceeds, ?_, ?_, isClamped_clampSize _ _⟩
  · intro hexceeds other hsame catalog' now'
    exact ofRequest_congr_of_exceeds hexceeds hsame catalog' now'
  · intro plan hplan
    exact page_of_planned hplan

end SearchPlan

end ReportSearch
