import ReportSearch.Web.Percent
import ReportSearch.Web.Request

/-!
# Routes

The paths that the service answers, each with the one method that it takes. Requests are counted
under the template of their route, so that names of fields do not show among the labels.
-/

set_option autoImplicit false

namespace ReportSearch

open Text

inductive Route where
  | health
  | live
  | ready
  | metrics
  | search
  | fields
  /-- One field; its name is still percent-encoded. -/
  | field (name : List Char)
  | refresh
  deriving DecidableEq, Repr

namespace Route

def fieldsPath : String := "/v1/fields"

/-- The routes without parameters. -/
def fixed : List Route := [health, live, ready, metrics, search, fields, refresh]

def template : Route → String
  | health => "/health"
  | live => "/health/live"
  | ready => "/health/ready"
  | metrics => "/metrics"
  | search => "/v1/search"
  | fields => fieldsPath
  | field _ => fieldsPath ++ "/:name"
  | refresh => "/v1/schema/refresh"

def ofPath? (path : String) : Option Route :=
  match fixed.find? (·.template = path) with
  | some route => some route
  | none =>
    match afterStart? (fieldsPath ++ "/").toList path.toList with
    | some name => if name.isEmpty || name.contains '/' then none else some (field name)
    | none => none

/-- Searches and refreshes are posted, all else is got. -/
def isPosted : Route → Bool
  | search => true
  | refresh => true
  | _ => false

def takes (route : Route) (method : String) : Bool :=
  if route.isPosted then method = "POST" else method = "GET" || method = "HEAD"

def isCounted : Route → Bool
  | health => false
  | metrics => false
  | _ => true

end Route

end ReportSearch
