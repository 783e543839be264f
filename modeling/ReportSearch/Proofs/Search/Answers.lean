import ReportSearch.Proofs.Search.Selection
import ReportSearch.Search.Service

/-!
# Answers of planned searches

The answer of a search has one row for each document of its backend and one list of counts for each
facet of its plan. A row has the names of the planned columns as its keys, and under each what the
column finds in the document; nothing else of a document or of the backend's counts is shown.
-/

set_option autoImplicit false

namespace ReportSearch

open Attempts

namespace Column

/-- The value that a column shows of a document: null where its name leads to nothing, and the tree
that a text spells where the column is one of a tree. -/
inductive Shows (column : Column) (document : Json) : Json → Prop where
  | missing (hfound : Json.atPath? column.name document = none) : Shows column document .null
  | spelled {text : String} {value : Json} (hshape : column.shape = .object)
      (hfound : Json.atPath? column.name document = some (.str text))
      (hvalue : Json.parse? text = some value) : Shows column document value
  | stored {value : Json} (hfound : Json.atPath? column.name document = some value)
      (hplain : column.shape = .object → ∀ text, value = .str text → Json.parse? text = none) :
      Shows column document value

/-- A row of a document: its keys are the names of the columns in order, each once and with what its
column shows. -/
structure IsRowOf (columns : List Column) (document : Json) (row : Row) : Prop where
  keys : row.map Prod.fst = columns.map Column.name
  keys_nodup : (row.map Prod.fst).Nodup
  values : ∀ column ∈ columns, ∀ value,
    row.lookup column.name = some value ↔ column.Shows document value

variable {columns : List Column} {column : Column} {document other : Json} {value : Json}

theorem Shows.eq_value (hpath : column.path = column.name) (h : column.Shows document value) :
    value = column.value document := by
  rw [Column.value, hpath]
  cases h with
  | missing hfound =>
    rw [hfound]
    cases column.shape <;> rfl
  | spelled hshape hfound hvalue => simp [hfound, hshape, Json.unfolded, hvalue]
  | stored hfound hplain =>
    rw [hfound]
    cases hshape : column.shape with
    | scalar => rfl
    | object =>
      cases value with
      | str text => simp [Json.unfolded, hplain hshape text rfl]
      | _ => rfl

theorem shows_value (hpath : column.path = column.name) (document : Json) :
    column.Shows document (column.value document) := by
  rw [Column.value, hpath]
  cases hfound : Json.atPath? column.name document with
  | none =>
    cases column.shape <;> exact .missing hfound
  | some found =>
    rw [Option.getD_some]
    cases hshape : column.shape with
    | scalar => exact .stored hfound (by simp [hshape])
    | object =>
      -- only a text can spell a tree
      cases found with
      | str text =>
        rw [Json.unfolded]
        cases hvalue : Json.parse? text with
        | none => exact .stored hfound (by rintro - _ ⟨rfl⟩; exact hvalue)
        | some value => exact .spelled hshape hfound hvalue
      | _ => exact .stored hfound (by rintro - _ ⟨⟩)

theorem shows_iff (hpath : column.path = column.name) :
    column.Shows document value ↔ value = column.value document := by
  constructor
  · exact fun h => h.eq_value hpath
  · rintro rfl
    exact shows_value hpath document

theorem row_eq_map (hnodup : (columns.map name).Nodup) (document : Json) :
    row columns document = columns.map fun column => (column.name, column.value document) :=
  Json.foldl_insertMember name (fun column => column.value document) hnodup

theorem isRowOf_row (hnodup : (columns.map name).Nodup)
    (hpaths : ∀ column ∈ columns, column.path = column.name) (document : Json) :
    IsRowOf columns document (row columns document) := by
  have hkeys : (row columns document).map Prod.fst = columns.map name := by
    rw [row_eq_map hnodup, List.map_map]
    rfl
  refine ⟨hkeys, hkeys ▸ hnodup, ?_⟩
  intro column hcolumn value
  have hmem : (column.name, column.value document) ∈ row columns document := by
    rw [row_eq_map hnodup]
    exact List.mem_map.mpr ⟨column, hcolumn, rfl⟩
  rw [Json.lookup_of_mem (hkeys ▸ hnodup) hmem, shows_iff (hpaths column hcolumn),
    Option.some.injEq, eq_comm]

/-- What a document holds beside the columns is not shown. -/
theorem row_congr (hnodup : (columns.map name).Nodup)
    (hpaths : ∀ column ∈ columns, column.path = column.name)
    (h : ∀ column ∈ columns,
      Json.atPath? column.name document = Json.atPath? column.name other) :
    row columns document = row columns other := by
  rw [row_eq_map hnodup, row_eq_map hnodup]
  refine List.map_congr_left fun column hcolumn => ?_
  rw [Column.value, Column.value, hpaths column hcolumn, h column hcolumn]

end Column

namespace FacetCounts

theorem lookup_insert (counts : FacetCounts) (name other : String) (found : List FacetCount) :
    (counts.insert name found).lookup other =
      if name = other then some found else counts.lookup other :=
  Json.lookup_insertMember name other found counts.entries

theorem lookup_filter (counts : FacetCounts) (keep : String → Bool) (name : String) :
    (counts.filter keep).lookup name = if keep name then counts.lookup name else none :=
  Json.lookup_filter_keys keep name counts.entries

theorem mem_names_iff {counts : FacetCounts} {name : String} :
    name ∈ counts.names ↔ (counts.lookup name).isSome = true := by
  rw [names, lookup, List.lookup_isSome_iff, List.mem_map]
  simp only [beq_iff_eq, @eq_comm _ name]

end FacetCounts

namespace SearchPlan

section Counts

variable {facets : List Facet} {counts : FacetCounts} {name : String}

theorem lookup_withFacet (counts : FacetCounts) (facet : Facet) (name : String) :
    (withFacet counts facet).lookup name =
      if facet.name = name then some ((counts.lookup name).getD []) else counts.lookup name := by
  unfold withFacet
  split
  · rename_i found hfound
    -- the counts stay, and the facet has some already
    split
    · rename_i hname
      rw [← hname, hfound, Option.getD_some]
    · rfl
  · rename_i hmissing
    rw [FacetCounts.lookup_insert]
    split
    · rename_i hname
      rw [← hname, hmissing, Option.getD_none]
    · rfl

/-- After all facets, each of their names has counts, and all others have what they had. -/
theorem lookup_foldl_withFacet :
    (facets.foldl withFacet counts).lookup name =
      if name ∈ facets.map Facet.name then some ((counts.lookup name).getD [])
      else counts.lookup name := by
  induction facets generalizing counts with
  | nil => simp
  | cons facet rest ih =>
    rw [List.foldl_cons, ih, lookup_withFacet, List.map_cons]
    by_cases hname : facet.name = name
    · by_cases hrest : name ∈ rest.map Facet.name <;> simp [hname, hrest]
    · simp [hname, Ne.symm hname]

theorem lookup_countsOf :
    (countsOf facets counts).lookup name =
      if name ∈ facets.map Facet.name then some ((counts.lookup name).getD []) else none := by
  have hkeep : (facets.any fun facet => facet.name = name) = true ↔
      name ∈ facets.map Facet.name := by simp
  rw [countsOf, FacetCounts.lookup_filter, lookup_foldl_withFacet]
  by_cases hname : name ∈ facets.map Facet.name
  · rw [if_pos (hkeep.mpr hname), if_pos hname, if_pos hname]
  · rw [if_neg (mt hkeep.mp hname), if_neg hname]

theorem mem_names_countsOf :
    name ∈ (countsOf facets counts).names ↔ name ∈ facets.map Facet.name := by
  rw [FacetCounts.mem_names_iff, lookup_countsOf]
  split <;> simp [*]

end Counts

/-- An answer that shows what a backend gave for a plan: the rows of its documents in order, and its
counts of each facet, which are none where it has not counted. -/
structure IsAnswer (plan : SearchPlan) (given : BackendAnswer) (found : SearchAnswer) : Prop where
  rows : List.Forall₂ (Column.IsRowOf plan.request.columns) given.documents found.rows
  facets : ∀ name, name ∈ found.facets.names ↔ name ∈ plan.request.facets.map Facet.name
  facets_nodup : found.facets.names.Nodup
  counts : ∀ facet ∈ plan.request.facets,
    found.facets.lookup facet.name = some ((given.facets.lookup facet.name).getD [])
  total : found.total = given.total
  dateRange : found.dateRange = plan.dateRange
  offset : found.offset = plan.request.offset
  limit : found.limit = plan.request.size
  catalogVersion : found.catalogVersion = plan.catalogVersion

variable {catalog : Catalog} {settings : SearchSettings} {now : Instant}
  {request : SearchRequest} {plan : SearchPlan}

/-- The planned columns have distinct names, and each reads a declared field under its name. -/
theorem columns_of_planned (h : ofRequest catalog settings now request = .ok plan) :
    (plan.request.columns.map Column.name).Nodup ∧
      ∀ column ∈ plan.request.columns, ∃ field, catalog.lookup? column.name = some field ∧
        column = Catalog.columnOf field := by
  obtain ⟨-, -, checked, query, facets, columns, -, -, hcolumns, rfl⟩ := ofRequest_eq_ok h
  have hfound : (catalog.columns request.columns).1 = columns := by rw [hcolumns]
  refine ⟨?_, fun column hcolumn => ?_⟩
  · change (columns.map Column.name).Nodup
    rw [← hfound, Catalog.columns, Catalog.names_columnsFrom]
    exact nodup_newNames
  · rw [← hfound] at hcolumn
    exact Catalog.columnOf_of_mem hcolumn

theorem path_of_planned (h : ofRequest catalog settings now request = .ok plan) :
    ∀ column ∈ plan.request.columns, column.path = column.name := by
  intro column hcolumn
  obtain ⟨field, -, rfl⟩ := (columns_of_planned h).2 column hcolumn
  rfl

theorem isAnswer_answer (h : ofRequest catalog settings now request = .ok plan)
    (given : BackendAnswer) : plan.IsAnswer given (plan.answer given) where
  rows := by
    refine List.forall₂_map_right_iff.mpr (List.forall₂_same.mpr fun document _ => ?_)
    exact Column.isRowOf_row (columns_of_planned h).1 (path_of_planned h) document
  facets _ := mem_names_countsOf
  facets_nodup := (countsOf plan.request.facets given.facets).names_nodup
  counts facet hfacet := by
    change (countsOf plan.request.facets given.facets).lookup facet.name = _
    rw [lookup_countsOf, if_pos (List.mem_map_of_mem hfacet)]
  total := rfl
  dateRange := rfl
  offset := rfl
  limit := rfl
  catalogVersion := rfl

/-- A planned search answers with the rows and counts of its plan, whatever the backend gave. Each
column shows a declared field, as a tree where the field is an object, and documents that agree at
the columns have the same row. -/
theorem answer_of_planned (hplan : ofRequest catalog settings now request = .ok plan)
    (given : BackendAnswer) :
    plan.IsAnswer given (plan.answer given) ∧
    (∀ column ∈ plan.request.columns, ∃ field, catalog.lookup? column.name = some field ∧
      (column.shape = .object ↔ field.type = .nestedObject)) ∧
    (∀ document other, (∀ column ∈ plan.request.columns,
        Json.atPath? column.name document = Json.atPath? column.name other) →
      Column.row plan.request.columns document = Column.row plan.request.columns other) ∧
    ∀ service : SearchService, service.registry.current = catalog → service.settings = settings →
      (service.search now (.answers given) request).result = .ok (plan.answer given) := by
  obtain ⟨hnodup, hcolumns⟩ := columns_of_planned hplan
  refine ⟨isAnswer_answer hplan given, fun column hcolumn => ?_, ?_, ?_⟩
  · obtain ⟨field, hfield, hcolumn⟩ := hcolumns column hcolumn
    refine ⟨field, hfield, ?_⟩
    rw [hcolumn, Catalog.columnOf, Field.isObject]
    by_cases hobject : field.type = .nestedObject <;> simp [hobject]
  · intro document other hagree
    exact Column.row_congr hnodup (path_of_planned hplan) hagree
  · rintro service rfl rfl
    unfold SearchService.search
    rw [hplan]
    rfl

/-- A column that comes twice and one of a tree, with one facet that the backend counts. -/
def shownRequest : SearchRequest where
  columns := ["system", "note", "system"]
  facets := [⟨"note", none⟩, ⟨"system.cores", some 2⟩]

/-- Two documents, one with its tree kept as a text and one that is none, and counts that nobody
asked for. -/
def partialAnswer : BackendAnswer where
  total := 7
  documents := [.obj [("extra", .null), ("system", .str "[1]")], .str "note"]
  facets := { entries := [("seen", [⟨"2024", 3⟩]), ("system.cores", [⟨"4", 7⟩])] }

theorem shownRequest_answer :
    ∃ plan, ofRequest (Catalog.ofMapping Mapping.sample 1) { dateField := "seen" }
        ⟨1700000000, 0⟩ shownRequest = .ok plan ∧
      plan.IsAnswer partialAnswer (plan.answer partialAnswer) ∧
      plan.request.columns = [⟨"system", "system", .object⟩, ⟨"note", "note", .scalar⟩] ∧
      (plan.answer partialAnswer).rows =
        [[("system", .arr [.num (.int 1)]), ("note", .null)],
          [("system", .null), ("note", .null)]] := by
  have hok : (ofRequest (Catalog.ofMapping Mapping.sample 1) { dateField := "seen" }
      ⟨1700000000, 0⟩ shownRequest).isOk = true := by decide +kernel
  obtain ⟨plan, hplan⟩ := exists_of_isOk hok
  have hcolumns : plan.request.columns =
      [⟨"system", "system", .object⟩, ⟨"note", "note", .scalar⟩] := by
    obtain ⟨-, -, checked, query, facets, columns, -, -, hfound, rfl⟩ := ofRequest_eq_ok hplan
    exact (congrArg Prod.fst hfound).symm.trans (by decide +kernel)
  refine ⟨plan, hplan, (answer_of_planned hplan partialAnswer).1, hcolumns, ?_⟩
  change partialAnswer.documents.map (Column.row plan.request.columns) = _
  rw [hcolumns]
  rfl

end SearchPlan

end ReportSearch
