import ReportSearch.Command.Basic
import ReportSearch.Search.Body
import ReportSearch.Web.Call

/-!
# Running commands

Compiling needs no server: it shows the plan of a search, or why there is none. Every other command
is one call, and shows the body of the answer whatever its status.
-/

set_option autoImplicit false

namespace ReportSearch

namespace SearchPlan

/-- A plan as it is shown. -/
def outline (plan : SearchPlan) : Json :=
  .obj [("schema_version", .ofNat plan.catalogVersion), ("date_range", plan.dateRange.json),
    ("body", plan.request.body)]

end SearchPlan

namespace SearchFault

/-- A fault as it is shown. -/
def outline (fault : SearchFault) : Json :=
  .obj [("error", .str fault.message), ("details", QueryFault.jsonList fault.queryFaults)]

end SearchFault

namespace SearchRequest

def compiled (catalog : Catalog) (now : Instant) (request : SearchRequest) : Json :=
  match SearchPlan.ofRequest catalog {} now request with
  | .ok plan => plan.outline
  | .error fault => fault.outline

end SearchRequest

namespace Command

/-- The path of the fields, or of one of them; its name is written as it is given. -/
def fieldsPath (name : Option String) (onlyFacetable : Bool) : String :=
  match name with
  | some name => "/v1/fields/" ++ name
  | none => "/v1/fields?facetable=" ++ (if onlyFacetable then "true" else "false")

def call? (endpoint : String) : Command → Except ShorthandFault (Option WebCall)
  | search query => do
    let request ← query.request
    return some
      { method := "POST", address := endpoint ++ "/v1/search", body := some request.json }
  | compile .. => .ok none
  | fields name onlyFacetable =>
    .ok (some { method := "GET", address := endpoint ++ fieldsPath name onlyFacetable })
  | refreshSchema => .ok (some { method := "POST", address := endpoint ++ "/v1/schema/refresh" })
  | health => .ok (some { method := "GET", address := endpoint ++ "/health" })

/-- A value as the program prints it. -/
def shown (value : Json) : String := value.indented ++ "\n"

/-- What is printed of an answer; nothing if there is none or it is not JSON. -/
def shownReply : WebReply → Option String
  | .answered _ body => (Json.parse? body).map shown
  | _ => none

end Command

end ReportSearch
