import ReportSearch.Catalog.Registry
import ReportSearch.Search.Answer
import ReportSearch.Search.Body

/-!
# The search service

A service plans every request against the catalog that is current when the request comes in, and
asks its backend once if the plan succeeds and not at all if it fails. What the backend does is
given with the request, so that a run is a function of what it meets.
-/

set_option autoImplicit false

namespace ReportSearch

/-- What a backend does when it is asked. -/
inductive BackendReply where
  | answers (answer : BackendAnswer)
  | fails (fault : BackendFault)
  /-- Nothing comes back before the service stops waiting. -/
  | hangs

structure SearchService where
  registry : Registry
  settings : SearchSettings
  /-- The name under which calls of the backend are counted. -/
  backendName : String
  /-- How many milliseconds the service waits for its backend. -/
  patience : Nat := 10000

/-- A search that has ended: its result, what the backend was asked, and what was counted. -/
structure SearchRun where
  result : Except SearchFault SearchAnswer
  asked : List BackendRequest
  events : List Event

namespace BackendReply

/-- What a service that waits so long makes of a reply. -/
def within (patience : Nat) : BackendReply → Except BackendFault BackendAnswer
  | answers answer => .ok answer
  | fails fault => .error fault
  | hangs => .error (.timeout patience)

end BackendReply

namespace SearchService

/-- A refused search: each fault of a rule, facet or column is counted by its kind. -/
def refused (fault : SearchFault) : SearchRun :=
  { result := .error fault
    asked := []
    events := fault.queryFaults.map (fun f => .queryError f.kind) ++ [.search .invalid] }

/-- A planned search, with what the backend gave in time. -/
def asked (service : SearchService) (plan : SearchPlan) :
    Except BackendFault BackendAnswer → SearchRun
  | .ok answer =>
    { result := .ok (plan.answer answer)
      asked := [plan.request]
      events := [.backendDuration service.backendName true, .search .success] }
  | .error fault =>
    { result := .error (.backend fault)
      asked := [plan.request]
      events := [.backendDuration service.backendName false, .search .backendUnavailable] }

def search (service : SearchService) (now : Instant) (reply : BackendReply)
    (request : SearchRequest) : SearchRun :=
  match SearchPlan.ofRequest service.registry.current service.settings now request with
  | .error fault => refused fault
  | .ok plan => service.asked plan (reply.within service.patience)

def afterRefresh (files : Files) (service : SearchService) : SearchService :=
  { service with registry := service.registry.afterRefresh files }

end SearchService

end ReportSearch
