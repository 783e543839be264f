import Mathlib.Data.List.Forall2
import ReportSearch.Proofs.Catalog.Reading
import ReportSearch.Web.Respond

/-!
# Labels of counted requests

Requests are counted under the template of their route, and under their own path when no route has
it. So what a request adds is one event of either family of requests, and the labels of a run stay
among the templates exactly as long as every request finds a route.
-/

set_option autoImplicit false

namespace ReportSearch

namespace Route

def templates : List String := fixed.map template ++ [(field []).template]

theorem template_mem_templates (route : Route) : route.template ∈ templates := by
  cases route with
  | field name => exact List.mem_append_right _ List.mem_cons_self
  | _ => exact List.mem_append_left _ (List.mem_map_of_mem (by decide))

example : templates = ["/health", "/health/live", "/health/ready", "/metrics", "/v1/search",
    "/v1/fields", "/v1/schema/refresh", "/v1/fields/:name"] := by decide

/-- A template is the path of a route itself, so that no path without a route is one. -/
theorem isSome_ofPath?_template : ∀ path ∈ templates, (ofPath? path).isSome := by
  decide +kernel

end Route

namespace Event

def requestFamilies : List String :=
  ["crash_query_http_requests_total", "crash_query_http_request_duration_seconds"]

def isOfRequest (event : Event) : Bool := requestFamilies.contains event.family

def path? (event : Event) : Option String := event.labels.lookup "path"

@[simp] theorem path?_httpRequest (method path : String) (status : Nat) :
    (httpRequest method path status).path? = some path := rfl

@[simp] theorem path?_httpDuration (method path : String) :
    (httpDuration method path).path? = some path := rfl

theorem isSome_path? (event : Event) : event.path?.isSome = event.isOfRequest := by
  cases event <;> rfl

end Event

namespace WebRequest

def label (request : WebRequest) : String :=
  match Route.ofPath? request.target.path with
  | some route => route.template
  | none => request.target.path

/-- Whether a request is counted. One for options is answered before it comes that far. -/
def isRecorded (request : WebRequest) : Bool :=
  request.method ≠ "OPTIONS" && (Route.ofPath? request.target.path).all Route.isCounted

/-- What a request adds to the families of requests when it is answered with a status. -/
def records (request : WebRequest) (status : Nat) : List Event :=
  if request.isRecorded then
    [.httpRequest request.method request.label status, .httpDuration request.method request.label]
  else []

theorem label_mem_templates_iff (request : WebRequest) :
    request.label ∈ Route.templates ↔ (Route.ofPath? request.target.path).isSome := by
  constructor
  · intro h
    unfold label at h
    split at h
    · rename_i route hroute
      rw [hroute]
      rfl
    · exact Route.isSome_ofPath?_template _ h
  · intro h
    obtain ⟨route, hroute⟩ := Option.isSome_iff_exists.mp h
    rw [label, hroute]
    exact route.template_mem_templates

/-- A request without a route is always counted, if it comes that far. -/
theorem label_mem_of_isRecorded_iff (request : WebRequest) :
    (request.isRecorded → request.label ∈ Route.templates) ↔
      (request.method ≠ "OPTIONS" → (Route.ofPath? request.target.path).isSome) := by
  rw [label_mem_templates_iff]
  constructor
  · intro h hmethod
    cases hroute : Route.ofPath? request.target.path with
    | some route => rfl
    | none =>
      rw [hroute] at h
      exact h (by simp [isRecorded, hroute, hmethod])
  · intro h hrecorded
    refine h fun hmethod => ?_
    simp [isRecorded, hmethod] at hrecorded

end WebRequest

/-- Whether a run adds to the families of requests what its request asks for, and nothing at all
when that request is not counted. -/
structure WebRun.Records (run : WebRun) (request : WebRequest) : Prop where
  requests : run.events.filter Event.isOfRequest = request.records run.response.status
  silent : request.isRecorded = false → run.events = []

namespace WebRun.Records

variable {run : WebRun} {request : WebRequest}

theorem countP_family (h : run.Records request) {family : String}
    (hfamily : family ∈ Event.requestFamilies) :
    run.events.countP (·.family = family) = [request].countP (·.isRecorded) := by
  have hfilter : (run.events.filter Event.isOfRequest).countP (·.family = family) =
      run.events.countP (·.family = family) := by
    rw [List.countP_filter]
    refine List.countP_congr fun event _ => ?_
    simp only [Bool.and_eq_true, decide_eq_true_eq, Event.isOfRequest, List.contains_iff_mem,
      and_iff_left_iff_imp]
    rintro rfl
    exact hfamily
  rw [← hfilter, h.requests, WebRequest.records, List.countP_singleton]
  split
  · rcases List.mem_pair.mp hfamily with rfl | rfl <;> rfl
  · rfl

theorem forall_path_iff (h : run.Records request) (p : String → Prop) :
    (∀ event ∈ run.events, ∀ path, event.path? = some path → p path) ↔
      (request.isRecorded → p request.label) := by
  have hfilter : (∀ event ∈ run.events, ∀ path, event.path? = some path → p path) ↔
      ∀ event ∈ run.events.filter Event.isOfRequest, ∀ path, event.path? = some path → p path := by
    constructor
    · exact fun hall event hevent => hall event (List.mem_of_mem_filter hevent)
    · intro hall event hevent path hpath
      refine hall event (List.mem_filter.mpr ⟨hevent, ?_⟩) path hpath
      rw [← event.isSome_path?, hpath]
      rfl
  -- What is left are the two events of the request, both with its label, or none.
  rw [hfilter, h.requests, WebRequest.records]
  split <;> simp [*]

end WebRun.Records

namespace SearchService

variable (service : SearchService) (around : Surroundings) (request : WebRequest)

theorem filter_search_events (now : Instant) (reply : BackendReply) (search : SearchRequest) :
    (service.search now reply search).events.filter Event.isOfRequest = [] := by
  unfold SearchService.search
  split
  · rename_i fault hplan
    rw [refused, List.filter_append, List.filter_eq_nil_iff.mpr]
    · rfl
    · exact List.forall_mem_map.mpr fun f _ => Bool.false_ne_true
  · cases reply.within service.patience <;> rfl

theorem filter_serve_events (route : Route) :
    (service.serve around request route).events.filter Event.isOfRequest = [] := by
  cases route with
  | search =>
    unfold serve
    dsimp only
    split
    · exact filter_search_events service _ _ _
    · rfl
  | refresh =>
    unfold serve Registry.refreshEvents
    dsimp only
    split <;> rfl
  | fields =>
    unfold serve
    dsimp only
    split <;> rfl
  | _ => rfl

theorem serve_events_eq_nil {route : Route} (h : route.isCounted = false) :
    (service.serve around request route).events = [] := by
  cases route with
  | health | metrics => rfl
  | _ => cases h

/-- What middleware adds after a run that has counted nothing as a request. -/
theorem counted_records {run : WebRun} (h : run.events.filter Event.isOfRequest = [])
    (hrecorded : request.isRecorded) :
    (counted request.method request.label run).Records request where
  requests := by
    rw [counted, List.filter_append, h, WebRequest.records, if_pos hrecorded]
    rfl
  silent hsilent := absurd hrecorded (by rw [hsilent]; exact Bool.false_ne_true)

theorem route_records (hmethod : request.method ≠ "OPTIONS") :
    (service.route around request).Records request := by
  unfold SearchService.route
  split
  · rename_i hroute
    have hlabel : request.label = request.target.path := by rw [WebRequest.label, hroute]
    rw [← hlabel]
    exact counted_records request rfl (by simp [WebRequest.isRecorded, hmethod, hroute])
  · rename_i route hroute
    have hlabel : request.label = route.template := by rw [WebRequest.label, hroute]
    have hrecorded : request.isRecorded = route.isCounted := by
      simp [WebRequest.isRecorded, hmethod, hroute]
    dsimp only
    rw [← hlabel, ← hrecorded]
    -- Whether the route takes the method decides the answer, not what is counted.
    have hrun : (if route.takes request.method then service.serve around request route
        else service.refusal 405).events.filter Event.isOfRequest = [] := by
      split
      · exact service.filter_serve_events around request route
      · rfl
    split
    · rename_i hrecorded'
      exact counted_records request hrun hrecorded'
    · rename_i hrecorded'
      refine ⟨?_, fun hsilent => ?_⟩
      · rw [hrun, WebRequest.records, if_neg hrecorded']
      · split
        · exact service.serve_events_eq_nil around request (hrecorded ▸ hsilent)
        · rfl

theorem respond_records : (service.respond around request).Records request := by
  unfold respond
  split
  · rename_i hmethod
    have hrecorded : request.isRecorded = false := by simp [WebRequest.isRecorded, hmethod]
    exact ⟨by rw [WebRequest.records, hrecorded]; rfl, fun _ => rfl⟩
  · rename_i hmethod
    have h := service.route_records around request hmethod
    dsimp only
    split
    · exact ⟨h.requests, h.silent⟩
    · exact h

end SearchService

namespace WebRun.Records

variable {runs : List WebRun} {requests : List (Surroundings × WebRequest)}

theorem countP_family_of_forall₂
    (h : List.Forall₂ (fun run met => run.Records met.2) runs requests)
    {family : String} (hfamily : family ∈ Event.requestFamilies) :
    (runs.flatMap WebRun.events).countP (·.family = family) =
      requests.countP (·.2.isRecorded) := by
  induction h with
  | nil => rfl
  | @cons run met runs requests hrun _ ih =>
    rw [List.flatMap_cons, List.countP_append, ih, hrun.countP_family hfamily,
      List.countP_singleton, List.countP_cons, Nat.add_comm]

theorem forall_path_iff_of_forall₂
    (h : List.Forall₂ (fun run met => run.Records met.2) runs requests) (p : String → Prop) :
    (∀ event ∈ runs.flatMap WebRun.events, ∀ path, event.path? = some path → p path) ↔
      ∀ met ∈ requests, met.2.isRecorded → p met.2.label := by
  induction h with
  | nil => simp
  | @cons run met runs requests hrun _ ih =>
    rw [List.flatMap_cons, List.forall_mem_append, ih, hrun.forall_path_iff, List.forall_mem_cons]

end WebRun.Records

namespace SearchService

variable (service : SearchService)

/-- Answers requests one after the other, each on what the ones before it left. -/
def runs (service : SearchService) : List (Surroundings × WebRequest) → List WebRun
  | [] => []
  | (around, request) :: rest =>
    service.respond around request :: (service.respond around request).service.runs rest

theorem runs_records (requests : List (Surroundings × WebRequest)) :
    List.Forall₂ (fun run met => run.Records met.2) (service.runs requests) requests := by
  induction requests generalizing service with
  | nil => exact .nil
  | cons met rest ih => exact .cons (service.respond_records met.1 met.2) (ih _)

/-- Every request adds one event to either family of requests, or none when it is not counted, and
all labels are templates if and only if every request that comes to be counted finds a route. -/
theorem path_labels_iff (requests : List (Surroundings × WebRequest)) :
    let runs := service.runs requests
    let events := runs.flatMap WebRun.events
    List.Forall₂ (fun run met => run.Records met.2) runs requests ∧
      (∀ family ∈ Event.requestFamilies,
        events.countP (·.family = family) = requests.countP (·.2.isRecorded)) ∧
      ((∀ event ∈ events, ∀ path, event.path? = some path → path ∈ Route.templates) ↔
        ∀ met ∈ requests, met.2.method ≠ "OPTIONS" →
          (Route.ofPath? met.2.target.path).isSome) := by
  intro runs events
  have hruns := service.runs_records requests
  refine ⟨hruns, ?_, ?_⟩
  · intro family hfamily
    exact WebRun.Records.countP_family_of_forall₂ hruns hfamily
  · rw [WebRun.Records.forall_path_iff_of_forall₂ hruns]
    exact forall₂_congr fun met _ => met.2.label_mem_of_isRecorded_iff

def unknownRequest : WebRequest := ⟨"GET", ⟨"/v1/unknown", none⟩, none, ""⟩

def idleService : SearchService where
  registry := ⟨.bundled, Catalog.ofMapping Mapping.sample 1, Mapping.sample.fields.length⟩
  settings := {}
  backendName := "index"

def idleAround : Surroundings := ⟨fun _ => none, ⟨1700000000, 0⟩, .hangs, none⟩

/-- A path that nobody has declared becomes a label of its own. -/
theorem unknownRequest_labelled :
    WebRequest.ofParts? "GET" "/v1/unknown" none "" = some unknownRequest ∧
      Route.ofPath? "/v1/unknown" = none ∧
      (idleService.respond idleAround unknownRequest).events =
        [.httpRequest "GET" "/v1/unknown" 404, .httpDuration "GET" "/v1/unknown"] ∧
      ¬ ∀ event ∈ (idleService.runs [(idleAround, unknownRequest)]).flatMap WebRun.events,
        ∀ path, event.path? = some path → path ∈ Route.templates := by
  have hroute : Route.ofPath? "/v1/unknown" = none := by decide +kernel
  have hiff := (path_labels_iff idleService [(idleAround, unknownRequest)]).2.2
  refine ⟨by decide +kernel, hroute, by decide +kernel, fun h => ?_⟩
  have hsome := hiff.mp h _ List.mem_cons_self (by decide)
  have hnone : Route.ofPath? unknownRequest.target.path = none := hroute
  rw [hnone] at hsome
  cases hsome

end SearchService

end ReportSearch
