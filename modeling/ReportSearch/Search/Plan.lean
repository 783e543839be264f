import ReportSearch.Query.OfRules
import ReportSearch.Rule.Check
import ReportSearch.Search.Fault
import ReportSearch.Search.Settings

/-!
# Planning a search

A request is checked as a whole and turned into what the backend is asked, without asking it. All
faults of rules, facets and columns are reported together. Where the rules leave the time open, the
search is bounded by the clock and by a number of days before.
-/

set_option autoImplicit false

namespace ReportSearch

/-- Whether the least or the greatest value comes first. -/
inductive SortOrder where
  | ascending
  | descending
  deriving DecidableEq, Repr

/-- The path by which results are ordered. -/
structure SortKey where
  path : String
  order : SortOrder
  deriving DecidableEq, Repr

/-- What a backend is asked, in terms of no particular backend. -/
structure BackendRequest where
  query : QueryTree
  dateFilter : Option QueryTree
  facets : List Facet
  columns : List Column
  sortKey : Option SortKey
  offset : Nat
  size : Nat

structure DateRange where
  lower : Option Instant
  upper : Option Instant
  deriving DecidableEq, Repr

structure SearchPlan where
  request : BackendRequest
  dateRange : DateRange
  catalogVersion : Nat

namespace SortOrder

def name : SortOrder → String
  | ascending => "asc"
  | descending => "desc"

end SortOrder

namespace BackendRequest

def json (request : BackendRequest) : Json :=
  .obj [("query", .obj [("root", request.query.json)]),
    ("date_filter", (request.dateFilter.map QueryTree.json).getD .null),
    ("facets", .arr (request.facets.map Facet.json)),
    ("columns", .arr (request.columns.map Column.json)),
    ("sort", match request.sortKey with
      | some key => .obj [("path", .str key.path), ("order", .str key.order.name)]
      | none => .null),
    ("from", .ofNat request.offset), ("size", .ofNat request.size)]

end BackendRequest

namespace DateRange

def boundJson : Option Instant → Json
  | some t => .str t.text
  | none => .null

def json (range : DateRange) : Json :=
  .obj [("from", boundJson range.lower), ("to", boundJson range.upper)]

end DateRange

namespace SearchPlan

/-- The instants that rules give for a field, each with its operator; negated rules give none. -/
def dateBounds (field : String) (rules : List CheckedRule) : List (Operator × Instant) :=
  rules.filterMap fun rule =>
    if rule.field.name = field && !rule.isNegated then
      (rule.operand.single?.bind Scalar.instant?).map fun t => (rule.operator, t)
    else none

def latest? : List Instant → Option Instant
  | [] => none
  | t :: ts => some (ts.foldl Instant.max t)

def earliest? : List Instant → Option Instant
  | [] => none
  | t :: ts => some (ts.foldl Instant.min t)

def lowerBound? (bounds : List (Operator × Instant)) : Option Instant :=
  latest? ((bounds.filter (·.1.setsLowerBound)).map (·.2))

def upperBound? (bounds : List (Operator × Instant)) : Option Instant :=
  earliest? ((bounds.filter (·.1.setsUpperBound)).map (·.2))

/-- The time that is covered, and a filter for the bounds that the rules leave open. -/
def dateWindow (catalog : Catalog) (settings : SearchSettings) (rules : List CheckedRule)
    (now : Instant) : DateRange × Option QueryTree :=
  match catalog.lookup? settings.dateField with
  | none => (⟨none, none⟩, none)
  | some field =>
    let bounds := dateBounds field.name rules
    let lower := lowerBound? bounds
    let upper := upperBound? bounds
    let through := upper.getD now
    let since := lower.getD ((through.daysBefore? settings.defaultDays).getD Instant.earliest)
    (⟨some since, some through⟩,
      QueryTree.dateWindow? field (if lower.isNone then some since else none)
        (if upper.isNone then some through else none))

def pageSize (settings : SearchSettings) (request : SearchRequest) : Nat :=
  clampSize settings.maxLimit (request.limit.getD settings.defaultLimit)

/-- The last result of the page that a request asks for, as a number of 64 bits: past the greatest of
these it stays there. -/
def pageEnd (settings : SearchSettings) (request : SearchRequest) : Nat :=
  min (request.offset + pageSize settings request) Number.greatestNat64

/-- A page that ends past the greatest number of 64 bits ends past the last result as well. -/
theorem pageEnd_le_iff {settings : SearchSettings} {request : SearchRequest} :
    pageEnd settings request ≤ SearchRequest.resultWindow ↔
      request.offset + pageSize settings request ≤ SearchRequest.resultWindow := by
  have hfit : SearchRequest.resultWindow < Number.greatestNat64 := by decide
  unfold pageEnd
  omega

/-- The checked rules, with their query unless some cannot be answered, and all faults. -/
def queryOf (catalog : Catalog) (rules : List Rule) :
    List CheckedRule × Option QueryTree × List QueryFault :=
  let (checked, faults) := Rule.checkAll catalog rules
  match QueryTree.ofRules checked with
  | .ok query => (checked, some query, faults)
  | .error more => (checked, none, faults ++ more)

def ofRequest (catalog : Catalog) (settings : SearchSettings) (now : Instant)
    (request : SearchRequest) : Except SearchFault SearchPlan :=
  let sizeFaults := request.sizeFaults
  let size := pageSize settings request
  if !sizeFaults.isEmpty then .error (.sizes sizeFaults)
  else if SearchRequest.resultWindow < pageEnd settings request then
    .error (.beyondWindow request.offset size)
  else
    let (rules, query?, ruleFaults) := queryOf catalog request.rules
    let (facets, facetFaults) :=
      catalog.facets settings.defaultFacetSize settings.maxFacetSize request.facets
    let (columns, columnFaults) := catalog.columns request.columns
    let faults := ruleFaults ++ facetFaults ++ columnFaults
    match query? with
    | none => .error (.invalidParts faults)
    | some query =>
      if !faults.isEmpty then .error (.invalidParts faults)
      else
        let (dateRange, dateFilter) := dateWindow catalog settings rules now
        .ok
          { request :=
              { query, dateFilter, facets, columns
                sortKey := (catalog.lookup? settings.dateField).map fun field =>
                ⟨field.rootVariant.path, .descending⟩
                offset := request.offset, size }
            dateRange
            catalogVersion := catalog.version }

end SearchPlan

end ReportSearch
