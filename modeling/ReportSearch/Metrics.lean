import ReportSearch.Rule.Fault

/-!
# Counted events

Everything that is counted or timed is an event of one series. What a run moves is the list of its
events, and a counter's value is the number of events of its series.
-/

set_option autoImplicit false

namespace ReportSearch

inductive RefreshOutcome where
  | success
  | failure
  deriving DecidableEq, Repr

inductive SearchOutcome where
  | success
  /-- The request was refused before the backend was asked. -/
  | invalid
  | backendUnavailable
  deriving DecidableEq, Repr

inductive Event where
  | httpRequest (method path : String) (status : Nat)
  | httpDuration (method path : String)
  | search (outcome : SearchOutcome)
  /-- An error of a kind in an answer. -/
  | queryError (kind : String)
  | schemaRefresh (outcome : RefreshOutcome)
  /-- A call of a backend, answered or not. -/
  | backendDuration (backend : String) (answered : Bool)
  deriving DecidableEq, Repr

namespace RefreshOutcome

def name : RefreshOutcome → String
  | success => "success"
  | failure => "failure"

end RefreshOutcome

namespace SearchOutcome

def name : SearchOutcome → String
  | success => "success"
  | invalid => "invalid"
  | backendUnavailable => "backend_unavailable"

end SearchOutcome

namespace Event

def family : Event → String
  | httpRequest .. => "crash_query_http_requests_total"
  | httpDuration .. => "crash_query_http_request_duration_seconds"
  | search _ => "crash_query_search_requests_total"
  | queryError _ => "crash_query_query_errors_total"
  | schemaRefresh _ => "crash_query_schema_refresh_total"
  | backendDuration .. => "crash_query_backend_request_duration_seconds"

/-- The labels of an event's series, in order of their names. -/
def labels : Event → List (String × String)
  | httpRequest method path status =>
    [("method", method), ("path", path), ("status_code", toString status)]
  | httpDuration method path => [("method", method), ("path", path)]
  | search outcome => [("outcome", outcome.name)]
  | queryError kind => [("kind", kind)]
  | schemaRefresh outcome => [("outcome", outcome.name)]
  | backendDuration backend answered =>
    [("backend", backend), ("outcome", if answered then "success" else "failure")]

def series (event : Event) : String :=
  event.family ++ "\x7b" ++
    ",".intercalate (event.labels.map fun (name, value) => name ++ "=" ++ value) ++ "\x7d"

/-- How often each series occurs, as an object. -/
def tally (events : List Event) : Json :=
  let names := (events.map series).eraseDups
  .obj (names.map fun name => (name, .ofNat (events.countP (·.series = name))))

end Event

/-- The version under which the service is known. -/
def serviceVersion : String := "0.4.0"

/-- The lines by which the build shows among the published numbers. -/
def buildInfoLines : List String :=
  ["# HELP crash_query_build_info Build information",
    "# TYPE crash_query_build_info gauge",
    "crash_query_build_info\x7bversion=\"" ++ serviceVersion ++ "\"\x7d 1"]

end ReportSearch
