import Mathlib.Data.List.Count
import ReportSearch.Search.Session

/-!
# Accounts of a session

A search ends in one of three ways, and what is counted for it follows from the way it ended: a
refused one is counted with its faults and never reaches the backend, any other one reaches it once.
The counts of a session are those of its searches, whatever happens to the catalog in between.
-/

set_option autoImplicit false

namespace ReportSearch

namespace SearchRun

/-- The way a search ended, read off what it returned. -/
def outcome (run : SearchRun) : SearchOutcome :=
  match run.result with
  | .ok _ => .success
  | .error (.backend _) => .backendUnavailable
  | .error _ => .invalid

/-- The faults of rules, facets and columns that a search returned. -/
def reported (run : SearchRun) : List QueryFault :=
  match run.result with
  | .ok _ => []
  | .error fault => fault.queryFaults

end SearchRun

namespace SearchPlan

/-- Planning asks no backend, so its faults are not those of one. -/
theorem ofRequest_ne_backend {catalog : Catalog} {settings : SearchSettings} {now : Instant}
    {request : SearchRequest} (fault : BackendFault) :
    ofRequest catalog settings now request ≠ .error (.backend fault) := by
  intro h
  unfold ofRequest at h
  dsimp only at h
  split at h
  · cases h
  · split at h
    · cases h
    · split at h
      · cases h
      · split at h <;> cases h

end SearchPlan

namespace SearchService

/-- The ways a search can end: refused by its plan, on a backend that fails or keeps silent, or with
an answer. -/
inductive Ends (service : SearchService) (now : Instant) (reply : BackendReply)
    (request : SearchRequest) (run : SearchRun) : SearchOutcome → Prop where
  | invalid {fault : SearchFault}
      (hplan : SearchPlan.ofRequest service.registry.current service.settings now request =
        .error fault)
      (hresult : run.result = .error fault) (hasked : run.asked = []) :
      Ends service now reply request run .invalid
  | failed {plan : SearchPlan} {fault : BackendFault}
      (hplan : SearchPlan.ofRequest service.registry.current service.settings now request =
        .ok plan)
      (hreply : reply = .fails fault)
      (hresult : run.result = .error (.backend fault)) (hasked : run.asked = [plan.request]) :
      Ends service now reply request run .backendUnavailable
  | silent {plan : SearchPlan}
      (hplan : SearchPlan.ofRequest service.registry.current service.settings now request =
        .ok plan)
      (hreply : reply = .hangs)
      (hresult : run.result = .error (.backend (.timeout service.patience)))
      (hasked : run.asked = [plan.request]) :
      Ends service now reply request run .backendUnavailable
  | success {plan : SearchPlan} {answer : BackendAnswer}
      (hplan : SearchPlan.ofRequest service.registry.current service.settings now request =
        .ok plan)
      (hreply : reply = .answers answer)
      (hresult : run.result = .ok (plan.answer answer)) (hasked : run.asked = [plan.request]) :
      Ends service now reply request run .success

variable {service : SearchService} {now : Instant} {reply : BackendReply}
  {request : SearchRequest}

theorem Ends.outcome_eq {run : SearchRun} {outcome : SearchOutcome}
    (h : service.Ends now reply request run outcome) : run.outcome = outcome := by
  cases h with
  | @invalid fault hplan hresult hasked =>
    unfold SearchRun.outcome
    rw [hresult]
    cases fault with
    | backend fault => exact absurd hplan (SearchPlan.ofRequest_ne_backend fault)
    | _ => rfl
  | failed hplan hreply hresult hasked
  | silent hplan hreply hresult hasked
  | success hplan hreply hresult hasked =>
    unfold SearchRun.outcome
    rw [hresult]

variable (service now reply request)

theorem exists_ends :
    ∃ outcome, service.Ends now reply request (service.search now reply request) outcome := by
  unfold search
  cases hplan : SearchPlan.ofRequest service.registry.current service.settings now request with
  | error fault => exact ⟨_, .invalid hplan rfl rfl⟩
  | ok plan =>
    cases reply with
    | answers answer => exact ⟨_, .success hplan rfl rfl rfl⟩
    | fails fault => exact ⟨_, .failed hplan rfl rfl rfl⟩
    | hangs => exact ⟨_, .silent hplan rfl rfl rfl⟩

theorem ends_iff {outcome : SearchOutcome} :
    service.Ends now reply request (service.search now reply request) outcome ↔
      (service.search now reply request).outcome = outcome := by
  constructor
  · exact Ends.outcome_eq
  · rintro rfl
    obtain ⟨outcome, hends⟩ := exists_ends service now reply request
    rw [hends.outcome_eq]
    exact hends

end SearchService

/-- Whether what was counted answers for a list of searches that asked one backend. -/
structure Accounts (backend : String) (counted : List Event) (runs : List SearchRun) : Prop where
  outcomes : ∀ outcome, counted.count (.search outcome) = runs.countP (·.outcome = outcome)
  total : counted.count (.search .invalid) + counted.count (.search .backendUnavailable) +
    counted.count (.search .success) = runs.length
  calls : (runs.flatMap SearchRun.asked).length =
    counted.count (.search .success) + counted.count (.search .backendUnavailable)
  durations : ∀ name answered, counted.count (.backendDuration name answered) =
    if name = backend then
      counted.count (.search (if answered then .success else .backendUnavailable))
    else 0
  faults : ∀ kind, counted.count (.queryError kind) =
    ((runs.flatMap SearchRun.reported).map QueryFault.kind).count kind

namespace Accounts

variable {backend : String}

/-- What is counted for neither a search nor a backend needs no search to answer for. -/
theorem of_refresh {counted : List Event} (h : ∀ event ∈ counted, ∃ outcome,
    event = .schemaRefresh outcome) : Accounts backend counted [] := by
  have hzero : ∀ event, (∀ outcome, event ≠ .schemaRefresh outcome) → counted.count event = 0 := by
    intro event hevent
    refine List.count_eq_zero_of_not_mem fun hmem => ?_
    obtain ⟨outcome, rfl⟩ := h event hmem
    exact hevent outcome rfl
  constructor
  · intro outcome
    exact hzero _ (by simp)
  · simp [hzero]
  · simp [hzero]
  · simp [hzero]
  · simp [hzero]

theorem append {first second : List Event} {runs others : List SearchRun}
    (h : Accounts backend first runs) (h' : Accounts backend second others) :
    Accounts backend (first ++ second) (runs ++ others) where
  outcomes outcome := by
    rw [List.count_append, List.countP_append, h.outcomes, h'.outcomes]
  total := by
    have := h.total
    have := h'.total
    simp only [List.count_append, List.length_append]
    omega
  calls := by
    have := h.calls
    have := h'.calls
    simp only [List.count_append, List.flatMap_append, List.length_append]
    omega
  durations name answered := by
    rw [List.count_append, List.count_append, h.durations, h'.durations]
    split <;> rfl
  faults kind := by
    rw [List.count_append, List.flatMap_append, List.map_append, List.count_append, h.faults,
      h'.faults]

theorem of_refused {fault : SearchFault} (hfault : ∀ other, fault ≠ .backend other) :
    Accounts backend (SearchService.refused fault).events [SearchService.refused fault] := by
  have houtcome : (SearchService.refused fault).outcome = .invalid := by
    cases fault with
    | backend other => exact absurd rfl (hfault other)
    | _ => rfl
  have hcount : ∀ event, (∀ kind, event ≠ .queryError kind) →
      (SearchService.refused fault).events.count event = [Event.search .invalid].count event := by
    intro event hevent
    have hnone : (fault.queryFaults.map fun f => Event.queryError f.kind).count event = 0 := by
      refine List.count_eq_zero_of_not_mem fun hmem => ?_
      obtain ⟨f, -, rfl⟩ := List.mem_map.mp hmem
      exact hevent f.kind rfl
    rw [SearchService.refused, List.count_append, hnone, Nat.zero_add]
  constructor
  · intro outcome
    rw [hcount _ (by simp), List.countP_singleton, houtcome]
    cases outcome <;> rfl
  · simp [hcount]
  · rw [hcount _ (by simp), hcount _ (by simp)]
    rfl
  · intro name answered
    cases answered <;> simp [hcount]
  · intro kind
    have hreported : [SearchService.refused fault].flatMap SearchRun.reported = fault.queryFaults :=
      List.flatMap_singleton _ _
    have hmap : (fault.queryFaults.map fun f => Event.queryError f.kind) =
        (fault.queryFaults.map QueryFault.kind).map Event.queryError := by
      rw [List.map_map]
      rfl
    rw [hreported, SearchService.refused, List.count_append, hmap,
      List.count_map_of_injective _ _ fun a b h => Event.queryError.inj h]
    rfl

theorem of_called (run : SearchRun) (answered : Bool) (hasked : run.asked.length = 1)
    (hreported : run.reported = [])
    (houtcome : run.outcome = if answered then .success else .backendUnavailable) :
    Accounts backend [.backendDuration backend answered, .search run.outcome] [run] := by
  constructor
  · intro outcome
    rw [List.countP_singleton, List.count_cons_of_ne (by simp), List.count_singleton]
    simp
  · cases answered <;> rw [houtcome] <;> rfl
  · rw [List.flatMap_singleton, hasked, houtcome]
    cases answered <;> rfl
  · intro name other
    by_cases hname : name = backend
    · rw [if_pos hname, hname, houtcome]
      cases answered <;> cases other <;> simp
    · rw [if_neg hname]
      simp [Ne.symm hname]
  · intro kind
    simp [hreported]

theorem of_search (service : SearchService) (now : Instant) (reply : BackendReply)
    (request : SearchRequest) :
    Accounts service.backendName (service.search now reply request).events
      [service.search now reply request] := by
  unfold SearchService.search
  split
  · rename_i fault hplan
    exact of_refused fun other hother => SearchPlan.ofRequest_ne_backend other (hother ▸ hplan)
  · rename_i plan hplan
    cases reply with
    | answers answer => exact of_called (service.asked plan (.ok answer)) true rfl rfl rfl
    | fails fault => exact of_called (service.asked plan (.error fault)) false rfl rfl rfl
    | hangs => exact of_called (service.asked plan (.error (.timeout _))) false rfl rfl rfl

end Accounts

namespace SessionStep

def isSearch : SessionStep → Bool
  | search .. => true
  | _ => false

end SessionStep

namespace Session

/-- The searches of a run, each on what the steps before it left. -/
def searches (session : Session) : List SessionStep → List SearchRun
  | [] => []
  | .search now reply request :: rest => session.searched now reply request :: session.searches rest
  | step :: rest => (session.after step).searches rest

def counted (session : Session) : List SessionStep → List Event
  | [] => []
  | step :: rest => session.events step ++ (session.after step).counted rest

variable (session : Session)

@[simp] theorem backendName_after (step : SessionStep) :
    (session.after step).service.backendName = session.service.backendName := by
  cases step <;> rfl

theorem length_searches (steps : List SessionStep) :
    (session.searches steps).length = steps.countP (·.isSearch) := by
  induction steps generalizing session with
  | nil => rfl
  | cons step rest ih =>
    cases step <;> simp [searches, ih, SessionStep.isSearch]

theorem searches_append (steps others : List SessionStep) :
    session.searches (steps ++ others) =
      session.searches steps ++ (session.run steps).searches others := by
  induction steps generalizing session with
  | nil => rfl
  | cons step rest ih =>
    have hrun : session.run (step :: rest) = (session.after step).run rest := rfl
    cases step with
    | search now reply request =>
      rw [List.cons_append, searches, searches, ih, hrun]
      rfl
    | _ =>
      rw [List.cons_append, hrun]
      exact ih _

theorem accounts_step (step : SessionStep) :
    Accounts session.service.backendName (session.events step) (session.searches [step]) := by
  cases step with
  | search now reply request => exact .of_search session.service now reply request
  | refresh =>
    refine .of_refresh fun event hevent => ?_
    simp only [events, Registry.refreshEvents] at hevent
    split at hevent <;> exact ⟨_, List.mem_singleton.mp hevent⟩
  | _ => exact .of_refresh fun event hevent => absurd hevent List.not_mem_nil

theorem accounts (steps : List SessionStep) :
    Accounts session.service.backendName (session.counted steps) (session.searches steps) := by
  induction steps generalizing session with
  | nil => exact .of_refresh fun event hevent => absurd hevent List.not_mem_nil
  | cons step rest ih =>
    have hrest := ih (session.after step)
    rw [backendName_after] at hrest
    have happend : session.searches (step :: rest) =
        session.searches [step] ++ (session.after step).searches rest :=
      session.searches_append [step] rest
    rw [counted, happend]
    exact (session.accounts_step step).append hrest

/-- Every search of a session ends in exactly one way, and the counts of the session are those of
its searches. -/
theorem searches_accounted (steps : List SessionStep) :
    (∀ before now reply request after,
      let service := (session.run before).service
      let run := service.search now reply request
      (session.searches (before ++ .search now reply request :: after))[
          before.countP (·.isSearch)]? = some run ∧
        ∀ outcome, service.Ends now reply request run outcome ↔ run.outcome = outcome) ∧
    (session.searches steps).length = steps.countP (·.isSearch) ∧
    Accounts session.service.backendName (session.counted steps) (session.searches steps) := by
  refine ⟨?_, session.length_searches steps, session.accounts steps⟩
  intro before now reply request after
  refine ⟨?_, fun outcome => SearchService.ends_iff _ now reply request⟩
  rw [searches_append, ← length_searches, List.getElem?_append_right (Nat.le_refl _), Nat.sub_self]
  rfl

end Session

end ReportSearch
