import ReportSearch.Query.Clause
import ReportSearch.Search.Plan

/-!
# The body of a search

What a backend request looks like to the search index.
-/

set_option autoImplicit false

namespace ReportSearch.BackendRequest

def queryClause (request : BackendRequest) : Json :=
  match request.dateFilter with
  | some window =>
    QueryTree.boolClause
      [("must", .arr [request.query.clause]), ("filter", .arr [window.clause])]
  | none => request.query.clause

def body (request : BackendRequest) : Json :=
  .obj ([("query", request.queryClause), ("_source", Column.paths request.columns),
      ("from", .ofNat request.offset), ("size", .ofNat request.size),
      ("track_total_hits", .bool true)] ++
    (if request.facets.isEmpty then [] else [("aggs", Facet.aggregations request.facets)]) ++
    match request.sortKey with
    | some key => [("sort", .arr [.obj [(key.path, .obj [("order", .str key.order.name)])]])]
    | none => [])

end ReportSearch.BackendRequest
