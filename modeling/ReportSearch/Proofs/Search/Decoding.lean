import ReportSearch.Proofs.Attempts
import ReportSearch.Proofs.Json.Keys
import ReportSearch.Proofs.Query.Outline
import ReportSearch.Search.Body

/-!
# Reading the body of a search

The body that is sent for a request tells the request, up to the names of fields in its query and
the types of its values. So no path, no name and no text of a request can pass for a part of the
body that the request does not have.
-/

set_option autoImplicit false

namespace ReportSearch

namespace Json

def natural? : Json → Option Nat
  | num (.int i) => if 0 ≤ i then some i.toNat else none
  | _ => none

@[simp] theorem natural?_ofNat (n : Nat) : (ofNat n).natural? = some n := by
  simp [ofNat, natural?]

def texts? (value : Json) : Option (List String) := value.items?.bind (·.mapM text?)

theorem texts?_ofStrings (texts : List String) : (ofStrings texts).texts? = some texts := by
  have htext : ∀ text, (str text).text? = some text := fun _ => rfl
  exact Attempts.mapM_map_eq_some htext texts

end Json

/-- What a body tells of a request: leaves have a path and some content, columns their paths. -/
structure RequestOutline (α : Type) where
  query : Outline α
  dateFilter : Option (Outline α)
  facets : List Facet
  columnPaths : List String
  sortKey : Option SortKey
  offset : Nat
  size : Nat

namespace RequestOutline

def map {α β : Type} (f : α → β) (outline : RequestOutline α) : RequestOutline β where
  query := outline.query.map f
  dateFilter := outline.dateFilter.map (Outline.map f)
  facets := outline.facets
  columnPaths := outline.columnPaths
  sortKey := outline.sortKey
  offset := outline.offset
  size := outline.size

end RequestOutline

namespace BackendRequest

def outline (request : BackendRequest) : RequestOutline LeafTest where
  query := request.query.outline
  dateFilter := request.dateFilter.map QueryTree.outline
  facets := request.facets
  columnPaths := request.columns.map Column.path
  sortKey := request.sortKey
  offset := request.offset
  size := request.size

/-- What is left of a request without the values of its leaves. -/
def shape (request : BackendRequest) : RequestOutline LeafKind := request.outline.map LeafTest.kind

/-- The request with other values in the leaves of its query and of its window of time. -/
def mapValues (onScalar : Scalar → Scalar) (onText : String → String) (request : BackendRequest) :
    BackendRequest :=
  { request with
    query := request.query.mapValues onScalar onText
    dateFilter := request.dateFilter.map (QueryTree.mapValues onScalar onText) }

theorem queryClause_eq_of_outline_eq {request other : BackendRequest}
    (h : other.outline = request.outline) : other.queryClause = request.queryClause := by
  have hquery : other.query.clause = request.query.clause := by
    rw [← Outline.clause_outline, ← Outline.clause_outline]
    exact congrArg (Outline.clause ∘ RequestOutline.query) h
  have hwindow : other.dateFilter.map QueryTree.clause = request.dateFilter.map QueryTree.clause := by
    have hfilter := congrArg (Option.map Outline.clause ∘ RequestOutline.dateFilter) h
    simpa [outline, Function.comp_def, Outline.clause_outline] using hfilter
  unfold queryClause
  rw [hquery]
  -- Two windows of time have the same clause, and where one request has none the other has none.
  cases hother : other.dateFilter with
  | none =>
    rw [hother] at hwindow
    rw [Option.map_eq_none_iff.mp hwindow.symm]
  | some window =>
    rw [hother] at hwindow
    obtain ⟨found, hfound, hclause⟩ := Option.map_eq_some_iff.mp hwindow.symm
    rw [hfound]
    dsimp only
    rw [hclause]

/-- A body has nothing but what the outline of its request tells. -/
theorem body_eq_of_outline_eq {request other : BackendRequest}
    (h : other.outline = request.outline) : other.body = request.body := by
  have hquery := queryClause_eq_of_outline_eq h
  have hpaths : other.columns.map Column.path = request.columns.map Column.path :=
    congrArg RequestOutline.columnPaths h
  have hfacets : other.facets = request.facets := congrArg RequestOutline.facets h
  have hkey : other.sortKey = request.sortKey := congrArg RequestOutline.sortKey h
  have hoffset : other.offset = request.offset := congrArg RequestOutline.offset h
  have hsize : other.size = request.size := congrArg RequestOutline.size h
  simp only [body, Column.paths, hquery, hpaths, hfacets, hkey, hoffset, hsize]

theorem shape_mapValues (onScalar : Scalar → Scalar) (onText : String → String)
    (request : BackendRequest) : (request.mapValues onScalar onText).shape = request.shape := by
  obtain ⟨query, dateFilter, facets, columns, sortKey, offset, size⟩ := request
  have hquery := QueryTree.map_kind_outline_mapValues onScalar onText query
  cases dateFilter with
  | none => simp [shape, outline, mapValues, RequestOutline.map, hquery]
  | some window =>
    have hwindow := QueryTree.map_kind_outline_mapValues onScalar onText window
    simp [shape, outline, mapValues, RequestOutline.map, hquery, hwindow]

end BackendRequest

namespace Outline

theorem ofQuery?_queryClause (request : BackendRequest) :
    ofQuery? request.queryClause =
      some (request.query.outline, request.dateFilter.map QueryTree.outline) := by
  unfold BackendRequest.queryClause
  split
  · rename_i window hwindow
    have hfiltered : filtered? (QueryTree.boolClause
        [("must", .arr [request.query.clause]), ("filter", .arr [window.clause])]) =
          some (request.query.clause, window.clause) := rfl
    simp only [ofQuery?, hfiltered, QueryTree.ofClause?_clause, hwindow, Option.map_some]
  · rename_i hwindow
    simp only [ofQuery?, QueryTree.filtered?_clause, QueryTree.ofClause?_clause, hwindow,
      Option.map_some, Option.map_none]

end Outline

namespace Facet

/-- A facet as a member of the aggregations. -/
def aggregation (facet : Facet) : String × Json :=
  (facet.name, .obj [("terms", .obj [("field", .str facet.path), ("size", .ofNat facet.size)])])

def ofAggregation? : String × Json → Option Facet
  | (name, value) => do
    let terms ← value.get? "terms"
    let path ← (terms.get? "field").bind Json.text?
    let size ← (terms.get? "size").bind Json.natural?
    some ⟨name, path, size⟩

theorem ofAggregation?_aggregation (facet : Facet) :
    ofAggregation? facet.aggregation = some facet := by
  obtain ⟨name, path, size⟩ := facet
  have hsize : (Json.ofNat size).natural? = some size := Json.natural?_ofNat size
  simp [ofAggregation?, aggregation, Json.get?, Json.members?, List.lookup_cons, Json.text?, hsize]

/-- Facets of distinct names are put down one after another, none in the place of another. -/
theorem aggregations_eq {facets : List Facet} (h : (facets.map name).Nodup) :
    aggregations facets = .obj (facets.map aggregation) :=
  congrArg Json.obj (Json.foldl_insertMember name (fun facet => facet.aggregation.2) h)

def ofAggregations? : Option Json → Option (List Facet)
  | some aggregations => aggregations.members?.bind (·.mapM ofAggregation?)
  | none => some []

end Facet

namespace SortKey

def ofName? (name : String) : Option SortOrder :=
  if name = SortOrder.ascending.name then some .ascending
  else if name = SortOrder.descending.name then some .descending
  else none

def ofCriterion? (criterion : Json) : Option SortKey := do
  let (path, value) ← criterion.single?
  let order ← ((value.get? "order").bind Json.text?).bind ofName?
  some ⟨path, order⟩

def ofSort? : Option Json → Option (Option SortKey)
  | some (.arr [criterion]) => (ofCriterion? criterion).map some
  | some _ => none
  | none => some none

theorem ofSort?_criterion (key : SortKey) :
    ofSort? (some (.arr [.obj [(key.path, .obj [("order", .str key.order.name)])]])) =
      some (some key) := by
  obtain ⟨path, order⟩ := key
  cases order <;> rfl

end SortKey

namespace RequestOutline

/-- What a body tells, read by its keys. -/
def ofBody? (body : Json) : Option (RequestOutline LeafTest) := do
  let (query, dateFilter) ← (body.get? "query").bind Outline.ofQuery?
  let facets ← Facet.ofAggregations? (body.get? "aggs")
  let columnPaths ← (body.get? "_source").bind Json.texts?
  let sortKey ← SortKey.ofSort? (body.get? "sort")
  let offset ← (body.get? "from").bind Json.natural?
  let size ← (body.get? "size").bind Json.natural?
  some { query, dateFilter, facets, columnPaths, sortKey, offset, size }

end RequestOutline

namespace BackendRequest

open RequestOutline (ofBody?)

/-- What each key of a body holds; facets and the sort key have one only where there are any. -/
theorem get?_body (request : BackendRequest) :
    request.body.get? "query" = some request.queryClause ∧
      request.body.get? "aggs" =
        (if request.facets.isEmpty then none else some (Facet.aggregations request.facets)) ∧
      request.body.get? "_source" = some (Column.paths request.columns) ∧
      request.body.get? "sort" = request.sortKey.map (fun key =>
        .arr [.obj [(key.path, .obj [("order", .str key.order.name)])]]) ∧
      request.body.get? "from" = some (.ofNat request.offset) ∧
      request.body.get? "size" = some (.ofNat request.size) := by
  obtain ⟨query, dateFilter, facets, columns, sortKey, offset, size⟩ := request
  cases facets <;> cases sortKey <;> exact ⟨rfl, rfl, rfl, rfl, rfl, rfl⟩

theorem ofBody?_body {request : BackendRequest} (h : (request.facets.map Facet.name).Nodup) :
    ofBody? request.body = some request.outline := by
  obtain ⟨hquery, haggs, hsource, hsort, hfrom, hsize⟩ := request.get?_body
  have hfacets : Facet.ofAggregations? (request.body.get? "aggs") = some request.facets := by
    rw [haggs]
    split
    · rename_i hempty
      rw [List.isEmpty_iff.mp hempty]
      rfl
    · rw [Facet.aggregations_eq h]
      exact Attempts.mapM_map_eq_some Facet.ofAggregation?_aggregation request.facets
  have hkey : SortKey.ofSort? (request.body.get? "sort") = some request.sortKey := by
    rw [hsort]
    cases request.sortKey with
    | none => rfl
    | some key => exact SortKey.ofSort?_criterion key
  have hpaths : (Column.paths request.columns).texts? = some (request.columns.map Column.path) :=
    Json.texts?_ofStrings _
  simp only [ofBody?, hquery, hsource, hfrom, hsize, hfacets, hkey, hpaths, Option.bind_some,
    Outline.ofQuery?_queryClause, Json.natural?_ofNat]
  rfl

/-- The body of a request whose facets have distinct names is read back as the outline of the
request. So another request has the same body exactly when it has the same outline, and other values
in the leaves leave all that the body tells apart from them as it is. -/
theorem outline_of_body {request : BackendRequest} (h : (request.facets.map Facet.name).Nodup) :
    ofBody? request.body = some request.outline ∧
    (∀ other : BackendRequest, (other.facets.map Facet.name).Nodup →
      (other.body = request.body ↔ other.outline = request.outline) ∧
        (other.body = request.body → other.shape = request.shape)) ∧
    ∀ (onScalar : Scalar → Scalar) (onText : String → String),
      (ofBody? (request.mapValues onScalar onText).body).map (RequestOutline.map LeafTest.kind) =
        (ofBody? request.body).map (RequestOutline.map LeafTest.kind) := by
  have hread := ofBody?_body h
  refine ⟨hread, ?_, ?_⟩
  · intro other hother
    have houtline : other.body = request.body → other.outline = request.outline := by
      intro hbody
      rw [← Option.some_inj, ← ofBody?_body hother, hbody, hread]
    refine ⟨⟨houtline, body_eq_of_outline_eq⟩, ?_⟩
    intro hbody
    exact congrArg (RequestOutline.map LeafTest.kind) (houtline hbody)
  · intro onScalar onText
    have hvalues : ((request.mapValues onScalar onText).facets.map Facet.name).Nodup := h
    rw [ofBody?_body hvalues, hread]
    exact congrArg some (shape_mapValues onScalar onText request)

/-- A request whose paths, names and texts are the words that clauses are made of. -/
def wordyRequest : BackendRequest where
  query :=
    .all [.not (.leaf ⟨"a", "must_not", .term (.text "match_all")⟩),
      .any [.leaf ⟨"b", "field", .isPresent⟩, .leaf ⟨"c", "bool", .phrase "match_all"⟩]]
  dateFilter := some (.leaf ⟨"d", "gte", .range { lt := some (.integer 5) }⟩)
  facets := [⟨"terms", "size", 3⟩, ⟨"field", "terms", 0⟩]
  columns := [⟨"query", "aggs", .scalar⟩]
  sortKey := some ⟨"order", .ascending⟩
  offset := 20
  size := 10

/-- The text of the phrase among others is made the text that closes the clause. -/
theorem outline_of_wordyRequest :
    (wordyRequest.facets.map Facet.name).Nodup ∧
    ofBody? wordyRequest.body = some wordyRequest.outline ∧
    (ofBody? (wordyRequest.mapValues id fun _ => "\"\x7d\x7d]\x7d").body).map
        (RequestOutline.map LeafTest.kind) =
      (ofBody? wordyRequest.body).map (RequestOutline.map LeafTest.kind) := by
  have hnames : (wordyRequest.facets.map Facet.name).Nodup := by decide
  obtain ⟨hread, -, hvalues⟩ := outline_of_body hnames
  exact ⟨hnames, hread, hvalues id _⟩

end BackendRequest

end ReportSearch
