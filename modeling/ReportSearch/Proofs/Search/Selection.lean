import ReportSearch.Proofs.Catalog.Listing
import ReportSearch.Proofs.Query.VariantChoice
import ReportSearch.Proofs.Search.Completeness
import ReportSearch.Proofs.Search.Decoding
import ReportSearch.Proofs.Search.Limits

/-!
# Selected facets and columns

Facets and columns are resolved by name, and a name that comes again is passed over. Each field that
can be counted has one facet, in order of the first requests for it and with the size that the first
one asks for; every request for another name is at fault, as often as it comes.
-/

set_option autoImplicit false

namespace ReportSearch

/-- The names that are allowed and were not seen before, each where it comes first. -/
def newNames (allowed : String → Bool) (seen names : List String) : List String :=
  (names.filter fun name => allowed name && !seen.contains name).eraseDups

section NewNames

variable {allowed : String → Bool} {seen names : List String} {name : String}

theorem newNames_cons_of_new (hallowed : allowed name = true) (hnew : name ∉ seen) :
    newNames allowed seen (name :: names) = name :: newNames allowed (name :: seen) names := by
  have hkeep : (allowed name && !seen.contains name) = true := by simp [hallowed, hnew]
  have hrest : ∀ other, ((!other == name) && (allowed other && !seen.contains other)) =
      (allowed other && !(name :: seen).contains other) := by
    intro other
    rw [List.contains_cons, Bool.not_or, Bool.and_left_comm]
  rw [newNames, newNames, List.filter_cons, if_pos hkeep, List.eraseDups_cons, List.filter_filter,
    List.filter_congr fun other _ => hrest other]

theorem newNames_cons_of_old (h : allowed name = false ∨ name ∈ seen) :
    newNames allowed seen (name :: names) = newNames allowed seen names := by
  have hdrop : ¬(allowed name && !seen.contains name) = true := by
    rcases h with h | h <;> simp [h]
  rw [newNames, newNames, List.filter_cons, if_neg hdrop]

theorem mem_newNames_iff :
    name ∈ newNames allowed seen names ↔ name ∈ names ∧ allowed name = true ∧ name ∉ seen := by
  simp [newNames, List.mem_eraseDups]

theorem nodup_newNames : (newNames allowed seen names).Nodup := by
  induction names generalizing seen with
  | nil => exact .nil
  | cons first rest ih =>
    by_cases h : allowed first = true ∧ first ∉ seen
    · -- what comes first is seen from then on
      rw [newNames_cons_of_new h.1 h.2]
      refine List.nodup_cons.mpr ⟨?_, ih⟩
      rw [mem_newNames_iff]
      rintro ⟨-, -, hnew⟩
      exact hnew List.mem_cons_self
    · rw [newNames_cons_of_old (by simpa [or_iff_not_imp_left] using h)]
      exact ih

end NewNames

namespace Catalog

/-- Whether a name finds a field that can be counted. -/
def canCount (catalog : Catalog) (name : String) : Bool :=
  (catalog.lookup? name).any Field.isFacetable

/-- A facet of the field that its name finds: the first variant that keeps values is counted, and
the first request for the name sets the size. -/
structure Counts (catalog : Catalog) (defaultSize maxSize : Nat) (requests : List FacetRequest)
    (facet : Facet) : Prop where
  source : ∃ field variant, catalog.lookup? facet.name = some field ∧ field.type ≠ .nestedObject ∧
    field.IsFirst VariantKind.isVerbatim variant ∧ facet.path = variant.path
  size : ∃ request, requests.find? (·.field = facet.name) = some request ∧
    IsClamped maxSize (request.size.getD defaultSize) facet.size

variable {catalog : Catalog} {defaultSize maxSize : Nat} {seen : List String} {facet : Facet}
  {name : String} {request : FacetRequest} {requests : List FacetRequest}

theorem facetSource_eq_ok {field : Field} {variant : Variant}
    (h : catalog.facetSource name = .ok (field, variant)) :
    catalog.lookup? name = some field ∧ field.isFacetable = true ∧
      field.verbatimVariant? = some variant := by
  unfold facetSource at h
  split at h
  · cases h
  · rename_i found hfound
    split at h
    · rename_i chosen hchosen
      split at h
      · rename_i hfacetable
        cases h
        exact ⟨hfound, hfacetable, hchosen⟩
      · cases h
    · cases h

theorem canCount_of_ok {field : Field} {variant : Variant}
    (h : catalog.facetSource name = .ok (field, variant)) : catalog.canCount name = true := by
  obtain ⟨hfield, hfacetable, -⟩ := facetSource_eq_ok h
  simp [canCount, hfield, hfacetable]

theorem canCount_of_error {fault : QueryFault} (h : catalog.facetSource name = .error fault) :
    catalog.canCount name = false := by
  have hfault := catalog.fault?_facetSource ⟨name, none⟩
  rw [h] at hfault
  unfold facetFault? at hfault
  unfold canCount
  cases hfound : catalog.lookup? name with
  | none => rfl
  | some field =>
    simp [hfound, Attempts.fault?] at hfault
    simp [hfault]

/-- What one request adds to the facets: nothing, or the facet of a name that is new. -/
theorem facetsFrom_cons (catalog : Catalog) (defaultSize maxSize : Nat) (seen : List String)
    (request : FacetRequest) (rest : List FacetRequest) :
    ((catalog.canCount request.field = false ∨ request.field ∈ seen) ∧
      (catalog.facetsFrom defaultSize maxSize seen (request :: rest)).1 =
        (catalog.facetsFrom defaultSize maxSize seen rest).1) ∨
    (request.field ∉ seen ∧ ∃ field variant,
      catalog.facetSource request.field = .ok (field, variant) ∧
      (catalog.facetsFrom defaultSize maxSize seen (request :: rest)).1 =
        ⟨request.field, variant.path, clampSize maxSize (request.size.getD defaultSize)⟩ ::
          (catalog.facetsFrom defaultSize maxSize (request.field :: seen) rest).1) := by
  rw [facetsFrom]
  cases hsource : catalog.facetSource request.field with
  | error fault => exact Or.inl ⟨Or.inl (canCount_of_error hsource), rfl⟩
  | ok source =>
    obtain ⟨field, variant⟩ := source
    have hname := name_of_lookup? (facetSource_eq_ok hsource).1
    dsimp only
    rw [hname]
    split
    · rename_i hseen
      exact Or.inl ⟨Or.inr (List.contains_iff_mem.mp hseen), rfl⟩
    · rename_i hnew
      exact Or.inr ⟨mt List.contains_iff_mem.mpr hnew, field, variant, rfl, rfl⟩

theorem names_facetsFrom :
    (catalog.facetsFrom defaultSize maxSize seen requests).1.map Facet.name =
      newNames catalog.canCount seen (requests.map FacetRequest.field) := by
  induction requests generalizing seen with
  | nil => rfl
  | cons request rest ih =>
    rw [List.map_cons]
    rcases catalog.facetsFrom_cons defaultSize maxSize seen request rest with
      ⟨hold, heq⟩ | ⟨hnew, field, variant, hsource, heq⟩
    · rw [heq, newNames_cons_of_old hold, ih]
    · rw [heq, newNames_cons_of_new (canCount_of_ok hsource) hnew, List.map_cons, ih]

theorem canCount_of_mem (h : facet ∈ (catalog.facetsFrom defaultSize maxSize seen requests).1) :
    catalog.canCount facet.name = true ∧ facet.name ∉ seen := by
  have hname := List.mem_map_of_mem (f := Facet.name) h
  rw [names_facetsFrom, mem_newNames_iff] at hname
  exact hname.2

theorem Counts.cons_of_ne (h : catalog.Counts defaultSize maxSize requests facet)
    (hne : request.field ≠ facet.name) :
    catalog.Counts defaultSize maxSize (request :: requests) facet := by
  obtain ⟨first, hfirst, hsize⟩ := h.size
  refine ⟨h.source, first, ?_, hsize⟩
  rw [List.find?_cons_of_neg (by simpa using hne), hfirst]

theorem counts_of_mem (h : facet ∈ (catalog.facetsFrom defaultSize maxSize seen requests).1) :
    catalog.Counts defaultSize maxSize requests facet := by
  induction requests generalizing seen with
  | nil => simp [facetsFrom] at h
  | cons request rest ih =>
    rcases catalog.facetsFrom_cons defaultSize maxSize seen request rest with
      ⟨hold, heq⟩ | ⟨-, field, variant, hsource, heq⟩
    · rw [heq] at h
      -- a request that adds no facet does not name one that comes later either
      obtain ⟨hcount, hunseen⟩ := canCount_of_mem h
      refine (ih h).cons_of_ne ?_
      rintro hsame
      rcases hold with hold | hseen
      · rw [hsame, hcount] at hold
        cases hold
      · exact hunseen (hsame ▸ hseen)
    · rw [heq] at h
      rcases List.mem_cons.mp h with rfl | h
      · obtain ⟨hfield, hfacetable, hvariant⟩ := facetSource_eq_ok hsource
        rw [Field.isFacetable, Field.isObject, Bool.and_eq_true, Bool.not_eq_true',
          decide_eq_false_iff_not] at hfacetable
        exact ⟨⟨field, variant, hfield, hfacetable.1, Field.isFirst_of_find? hvariant, rfl⟩,
          request, List.find?_cons_of_pos (decide_eq_true rfl), isClamped_clampSize _ _⟩
      · refine (ih h).cons_of_ne ?_
        rintro hsame
        exact (canCount_of_mem h).2 (hsame ▸ List.mem_cons_self)

section Listed

variable {source : Json} {mapping : Mapping} {version : Nat}

theorem mem_facetableNames_iff (hread : Mapping.ofJson source = .ok mapping) :
    name ∈ (ofMapping mapping version).facetableNames ↔
      (ofMapping mapping version).canCount name = true := by
  have hlookup : ∀ {field}, (ofMapping mapping version).lookup? name = some field ↔
      field ∈ mapping.fields ∧ field.name = name := lookup?_eq_some_iff (Mapping.names_nodup hread)
  rw [canCount, Option.any_eq_true]
  constructor
  · intro h
    obtain ⟨field, hfield, hname⟩ := List.mem_map.mp h
    obtain ⟨hmem, hfacetable⟩ := List.mem_filter.mp hfield
    exact ⟨field, hlookup.mpr ⟨mem_of_mem_sortFields hmem, hname⟩, hfacetable⟩
  · rintro ⟨field, hfound, hfacetable⟩
    refine List.mem_map.mpr ⟨field, List.mem_filter.mpr ⟨?_, hfacetable⟩, name_of_lookup? hfound⟩
    exact List.mem_of_find?_eq_some hfound

theorem facetFault?_eq (hread : Mapping.ofJson source = .ok mapping) (request : FacetRequest) :
    (ofMapping mapping version).facetFault? request =
      if request.field ∈ (ofMapping mapping version).facetableNames then none
      else if request.field ∈ (ofMapping mapping version).names then
        some (.notFacetable request.field)
      else some (.unknownField request.field) := by
  simp only [facetFault?, mem_facetableNames_iff hread, canCount]
  cases hfound : (ofMapping mapping version).lookup? request.field with
  | none =>
    have hmissing : request.field ∉ (ofMapping mapping version).names := by
      intro hmem
      obtain ⟨field, hfield, hname⟩ := List.mem_map.mp hmem
      have hother := List.find?_eq_none.mp hfound field hfield
      exact hother (decide_eq_true hname)
    rw [if_neg (by simp), if_neg hmissing]
  | some field =>
    have hname := name_of_lookup? hfound
    have hmem : request.field ∈ (ofMapping mapping version).names :=
      List.mem_map.mpr ⟨field, List.mem_of_find?_eq_some hfound, hname⟩
    dsimp only
    rw [Option.any_some, if_pos hmem, hname]

theorem facets_faults (hread : Mapping.ofJson source = .ok mapping) :
    ((ofMapping mapping version).facets defaultSize maxSize requests).2 =
      requests.filterMap (fun request =>
        if request.field ∈ (ofMapping mapping version).facetableNames then none
        else if request.field ∈ (ofMapping mapping version).names then
          some (.notFacetable request.field)
        else some (.unknownField request.field)) := by
  rw [facets, facetsFrom_faults]
  exact List.filterMap_congr fun request _ => facetFault?_eq hread request

theorem facets_faults_eq_nil_iff (hread : Mapping.ofJson source = .ok mapping) :
    ((ofMapping mapping version).facets defaultSize maxSize [request]).2 = [] ↔
      request.field ∈ (ofMapping mapping version).facetableNames := by
  rw [facets_faults hread]
  by_cases hlisted : request.field ∈ (ofMapping mapping version).facetableNames
  · simp [hlisted]
  · by_cases hdeclared : request.field ∈ (ofMapping mapping version).names <;>
      simp [hlisted, hdeclared]

/-- Without names that were seen before, the new ones are those that are listed. -/
theorem newNames_canCount (hread : Mapping.ofJson source = .ok mapping) (names : List String) :
    newNames (ofMapping mapping version).canCount [] names =
      (names.filter ((ofMapping mapping version).facetableNames.contains ·)).eraseDups := by
  have hlisted : ∀ name, ((ofMapping mapping version).canCount name && !List.contains [] name) =
      (ofMapping mapping version).facetableNames.contains name := by
    intro name
    rw [Bool.eq_iff_iff, List.contains_iff_mem, mem_facetableNames_iff hread]
    simp
  rw [newNames, List.filter_congr fun name _ => hlisted name]

/-- The facets of a list of requests are those of the names in it that the catalog lists as
facetable, each once and where it comes first, and every request for another name is at fault. So
the aggregations that are asked for have one member for each facet. -/
theorem facets_resolved (hread : Mapping.ofJson source = .ok mapping)
    (version defaultSize maxSize : Nat) (requests : List FacetRequest) :
    let catalog := ofMapping mapping version
    let resolved := catalog.facets defaultSize maxSize requests
    resolved.1.map Facet.name =
        ((requests.map FacetRequest.field).filter (catalog.facetableNames.contains ·)).eraseDups ∧
    (∀ facet ∈ resolved.1, catalog.Counts defaultSize maxSize requests facet) ∧
    resolved.2 = requests.filterMap (fun request =>
      if request.field ∈ catalog.facetableNames then none
      else if request.field ∈ catalog.names then some (.notFacetable request.field)
      else some (.unknownField request.field)) ∧
    (∀ request, (catalog.facets defaultSize maxSize [request]).2 = [] ↔
      request.field ∈ catalog.facetableNames) ∧
    (resolved.1.map Facet.name).Nodup ∧
    Facet.aggregations resolved.1 = .obj (resolved.1.map Facet.aggregation) := by
  intro catalog resolved
  have hnames : resolved.1.map Facet.name =
      newNames catalog.canCount [] (requests.map FacetRequest.field) := names_facetsFrom
  have hnodup : (resolved.1.map Facet.name).Nodup := hnames ▸ nodup_newNames
  refine ⟨?_, ?_, ?_, ?_, hnodup, Facet.aggregations_eq hnodup⟩
  · rw [hnames]
    exact newNames_canCount hread _
  · intro facet hfacet
    exact counts_of_mem hfacet
  · exact facets_faults hread
  · intro request
    exact facets_faults_eq_nil_iff hread

/-- A facet that comes twice, among some that cannot be counted or are unknown. -/
def mixedFacets : List FacetRequest :=
  [⟨"system.cores", some 5000⟩, ⟨"system", none⟩, ⟨"system.cores", some 3⟩, ⟨"nope", none⟩,
    ⟨"note", none⟩, ⟨"system", some 2⟩]

theorem mixedFacets_resolved :
    Mapping.ofJson Mapping.sampleSource = .ok Mapping.sample ∧
      let catalog := ofMapping Mapping.sample 1
      let resolved := catalog.facets 50 1000 mixedFacets
      resolved.1.map Facet.name = ["system.cores", "note"] ∧
      (∀ facet ∈ resolved.1, catalog.Counts 50 1000 mixedFacets facet) ∧
      resolved.2 = [.notFacetable "system", .unknownField "nope", .notFacetable "system"] ∧
      Facet.aggregations resolved.1 = .obj (resolved.1.map Facet.aggregation) := by
  obtain ⟨hnames, hcounts, hfaults, -, -, haggregations⟩ :=
    facets_resolved Mapping.ofJson_sampleSource 1 50 1000 mixedFacets
  refine ⟨Mapping.ofJson_sampleSource, hnames.trans ?_, hcounts, hfaults.trans ?_, haggregations⟩
  · decide +kernel
  · decide +kernel

end Listed

section Columns

variable {names : List String} {column : Column}

theorem columnsFrom_cons (catalog : Catalog) (seen : List String) (name : String)
    (rest : List String) :
    (((catalog.lookup? name).isSome = false ∨ name ∈ seen) ∧
      (catalog.columnsFrom seen (name :: rest)).1 = (catalog.columnsFrom seen rest).1) ∨
    (name ∉ seen ∧ ∃ field, catalog.lookup? name = some field ∧
      (catalog.columnsFrom seen (name :: rest)).1 =
        columnOf field :: (catalog.columnsFrom (name :: seen) rest).1) := by
  rw [columnsFrom]
  cases hfound : catalog.lookup? name with
  | none => exact Or.inl ⟨Or.inl rfl, rfl⟩
  | some field =>
    dsimp only
    rw [name_of_lookup? hfound]
    split
    · rename_i hseen
      exact Or.inl ⟨Or.inr (List.contains_iff_mem.mp hseen), rfl⟩
    · rename_i hnew
      exact Or.inr ⟨mt List.contains_iff_mem.mpr hnew, field, rfl, rfl⟩

theorem names_columnsFrom :
    (catalog.columnsFrom seen names).1.map Column.name =
      newNames (fun name => (catalog.lookup? name).isSome) seen names := by
  induction names generalizing seen with
  | nil => rfl
  | cons name rest ih =>
    rcases catalog.columnsFrom_cons seen name rest with ⟨hold, heq⟩ | ⟨hnew, field, hfound, heq⟩
    · rw [heq, newNames_cons_of_old hold, ih]
    · have hname : (columnOf field).name = name := name_of_lookup? hfound
      rw [heq, newNames_cons_of_new (by rw [hfound]; rfl) hnew, List.map_cons, ih, hname]

theorem columnOf_of_mem (h : column ∈ (catalog.columnsFrom seen names).1) :
    ∃ field, catalog.lookup? column.name = some field ∧ column = columnOf field := by
  induction names generalizing seen with
  | nil => simp [columnsFrom] at h
  | cons name rest ih =>
    rcases catalog.columnsFrom_cons seen name rest with ⟨-, heq⟩ | ⟨-, field, hfound, heq⟩
    · exact ih (heq ▸ h)
    · rw [heq] at h
      rcases List.mem_cons.mp h with rfl | h
      · have hname : (columnOf field).name = name := name_of_lookup? hfound
        exact ⟨field, hname ▸ hfound, rfl⟩
      · exact ih h

end Columns

end Catalog

end ReportSearch
