import ReportSearch.Proofs.Catalog.Overlap
import ReportSearch.Proofs.Search.Accounting
import ReportSearch.Proofs.Search.Planning

/-!
# The catalog of a session

A session reads its file when it starts and at each refresh, and its catalog is that of the last
text that could be read. Nothing else changes it: neither writing the file, nor a refresh that
fails, nor a search. A catalog that was held, and a search that has begun, keep what they have.
-/

set_option autoImplicit false

namespace ReportSearch

namespace Mapping

/-- The mapping in a file; a file that is not there cannot be read. -/
def ofFile : Option String → Except CatalogFault Mapping
  | some text => ofText text
  | none => .error .unreadable

def readings (found : List (Option String)) : List Mapping :=
  found.filterMap fun text => (ofFile text).toOption

def failures (found : List (Option String)) : Nat :=
  found.countP fun text => (ofFile text).toOption.isNone

theorem readings_append (found others : List (Option String)) :
    readings (found ++ others) = readings found ++ readings others :=
  List.filterMap_append

theorem readings_cons_of_ok {text : Option String} {mapping : Mapping}
    (h : ofFile text = .ok mapping) (found : List (Option String)) :
    readings (text :: found) = mapping :: readings found :=
  List.filterMap_cons_some (by rw [h]; rfl)

theorem readings_cons_of_error {text : Option String} {fault : CatalogFault}
    (h : ofFile text = .error fault) (found : List (Option String)) :
    readings (text :: found) = readings found :=
  List.filterMap_cons_none (by rw [h]; rfl)

end Mapping

namespace SessionStep

def textAfter (text : Option String) : SessionStep → Option String
  | .write other => some other
  | .remove => none
  | _ => text

/-- What a step finds in the file; only a refresh looks. -/
def found (text : Option String) : SessionStep → List (Option String)
  | .refresh => [text]
  | _ => []

end SessionStep

/-- Whether a search was planned on a catalog, in all that it asks and returns. -/
structure SearchRun.IsPlannedOn (catalog : Catalog) (settings : SearchSettings) (now : Instant)
    (request : SearchRequest) (run : SearchRun) : Prop where
  refused : ∀ fault, SearchPlan.ofRequest catalog settings now request = .error fault →
    run.result = .error fault ∧ run.asked = []
  planned : ∀ plan, SearchPlan.ofRequest catalog settings now request = .ok plan →
    run.asked = [plan.request] ∧
      ∀ answer, run.result = .ok answer → ∃ given, answer = plan.answer given
  version : ∀ answer, run.result = .ok answer → answer.catalogVersion = catalog.version

namespace SearchRun.IsPlannedOn

variable {catalog : Catalog} {settings : SearchSettings} {now : Instant} {request : SearchRequest}
  {run : SearchRun}

theorem of_error {fault : SearchFault}
    (hplan : SearchPlan.ofRequest catalog settings now request = .error fault)
    (hresult : run.result = .error fault) (hasked : run.asked = []) :
    run.IsPlannedOn catalog settings now request := by
  constructor
  · intro other hother
    rw [hplan] at hother
    cases hother
    exact ⟨hresult, hasked⟩
  · intro plan hother
    rw [hplan] at hother
    cases hother
  · intro answer hanswer
    rw [hresult] at hanswer
    cases hanswer

theorem of_ok {plan : SearchPlan}
    (hplan : SearchPlan.ofRequest catalog settings now request = .ok plan)
    (hasked : run.asked = [plan.request])
    (hresult : ∀ answer, run.result = .ok answer → ∃ given, answer = plan.answer given) :
    run.IsPlannedOn catalog settings now request := by
  -- The answer takes its version from the plan, and the plan from the catalog.
  have hversion : plan.catalogVersion = catalog.version := by
    obtain ⟨-, -, checked, query, facets, columns, -, -, -, rfl⟩ := SearchPlan.ofRequest_eq_ok hplan
    rfl
  constructor
  · intro other hother
    rw [hplan] at hother
    cases hother
  · intro other hother
    rw [hplan] at hother
    cases hother
    exact ⟨hasked, hresult⟩
  · intro answer hanswer
    obtain ⟨given, rfl⟩ := hresult answer hanswer
    exact hversion

end SearchRun.IsPlannedOn

namespace SearchService

/-- The beginning of a search, up to the moment when the backend is asked. -/
def begun (service : SearchService) (now : Instant) (request : SearchRequest) :
    Except SearchFault SearchPlan :=
  SearchPlan.ofRequest service.registry.current service.settings now request

/-- The end of a search that has begun, with what the backend does. -/
def concluded (service : SearchService) (reply : BackendReply) :
    Except SearchFault SearchPlan → SearchRun
  | .error fault => refused fault
  | .ok plan => service.asked plan (reply.within service.patience)

variable (service : SearchService) (now : Instant) (reply : BackendReply) (request : SearchRequest)

theorem search_eq_concluded :
    service.search now reply request = service.concluded reply (service.begun now request) := by
  unfold search begun concluded
  rfl

theorem search_isPlannedOn : (service.search now reply request).IsPlannedOn
    service.registry.current service.settings now request := by
  obtain ⟨outcome, hends⟩ := service.exists_ends now reply request
  cases hends with
  | invalid hplan hresult hasked => exact .of_error hplan hresult hasked
  | failed hplan hreply hresult hasked
  | silent hplan hreply hresult hasked =>
    apply SearchRun.IsPlannedOn.of_ok hplan hasked
    intro answer hanswer
    rw [hresult] at hanswer
    cases hanswer
  | @success plan given hplan hreply hresult hasked =>
    apply SearchRun.IsPlannedOn.of_ok hplan hasked
    intro answer hanswer
    rw [hresult] at hanswer
    cases hanswer
    exact ⟨given, rfl⟩

theorem count_refresh_search (outcome : RefreshOutcome) :
    (service.search now reply request).events.count (.schemaRefresh outcome) = 0 := by
  apply List.count_eq_zero_of_not_mem
  unfold search
  split
  · simp [refused]
  · cases reply.within service.patience <;> simp [asked]

end SearchService

namespace Session

def textAfter (text : Option String) (steps : List SessionStep) : Option String :=
  steps.foldl SessionStep.textAfter text

/-- What the refreshes of a run find in the file, in order. -/
def found (text : Option String) : List SessionStep → List (Option String)
  | [] => []
  | step :: rest => step.found text ++ found (step.textAfter text) rest

/-- What a session that has read some mappings shows of them. -/
structure Shows (session : Session) (text : Option String) (readings : List Mapping) : Prop where
  source : session.service.registry.source = .file path
  text_eq : session.text = text
  catalog : ∃ mapping, readings.getLast? = some mapping ∧
    session.catalog = Catalog.ofMapping mapping readings.length
  published : session.service.registry.publishedSize = session.catalog.size

variable {session : Session} {text : Option String} {readings : List Mapping}

theorem read_filesOf (text : Option String) :
    (CatalogSource.file path).read (filesOf text) = Mapping.ofFile text := by
  cases text <;> rfl

theorem Shows.refreshed_eq (h : session.Shows text readings) :
    session.refreshed = (Mapping.ofFile text).map session.service.registry.install := by
  unfold Session.refreshed files Registry.refresh
  rw [h.source, h.text_eq, read_filesOf]

theorem Shows.refresh_of_error (h : session.Shows text readings) {fault : CatalogFault}
    (hread : Mapping.ofFile text = .error fault) :
    session.refreshed = .error fault ∧ session.after .refresh = session ∧
      session.events .refresh = [.schemaRefresh .failure] := by
  have hrefreshed := h.refreshed_eq
  rw [hread] at hrefreshed
  have hfailed : session.service.registry.refresh session.files = .error fault := hrefreshed
  refine ⟨hfailed, ?_, ?_⟩
  · simp only [Session.after, SearchService.afterRefresh, Registry.afterRefresh, hfailed]
  · simp only [events, Registry.refreshEvents, hfailed]

theorem Shows.refresh_of_ok (h : session.Shows text readings) {mapping : Mapping}
    (hread : Mapping.ofFile text = .ok mapping) :
    (session.after .refresh).service.registry = session.service.registry.install mapping ∧
      session.events .refresh = [.schemaRefresh .success] := by
  have hrefreshed := h.refreshed_eq
  rw [hread] at hrefreshed
  have hdone : session.service.registry.refresh session.files =
      .ok (session.service.registry.install mapping) := hrefreshed
  refine ⟨?_, ?_⟩
  · simp only [Session.after, SearchService.afterRefresh, Registry.afterRefresh, hdone]
  · simp only [events, Registry.refreshEvents, hdone]

/-- A step that does not touch the registry. -/
theorem Shows.of_registry_eq (h : session.Shows text readings) {other : Session}
    {otherText : Option String} (htext : other.text = otherText)
    (hregistry : other.service.registry = session.service.registry) :
    other.Shows otherText (readings ++ Mapping.readings []) := by
  have hcatalog : other.catalog = session.catalog := by
    unfold Session.catalog
    rw [hregistry]
  have hnone : readings ++ Mapping.readings [] = readings := List.append_nil _
  rw [hnone]
  exact
    { source := by rw [hregistry, h.source]
      text_eq := htext
      catalog := by rw [hcatalog]; exact h.catalog
      published := by rw [hcatalog, hregistry, h.published] }

theorem Shows.after (h : session.Shows text readings) (step : SessionStep) :
    (session.after step).Shows (step.textAfter text)
      (readings ++ Mapping.readings (step.found text)) := by
  cases step with
  | write other => exact h.of_registry_eq rfl rfl
  | remove => exact h.of_registry_eq rfl rfl
  | hold => exact h.of_registry_eq h.text_eq rfl
  | search now reply request => exact h.of_registry_eq h.text_eq rfl
  | refresh =>
    cases hread : Mapping.ofFile text with
    | error fault =>
      have hsame := (h.refresh_of_error hread).2.1
      rw [SessionStep.found, Mapping.readings_cons_of_error hread, hsame]
      exact h.of_registry_eq h.text_eq rfl
    | ok mapping =>
      have hregistry := (h.refresh_of_ok hread).1
      obtain ⟨last, -, hlast⟩ := h.catalog
      rw [SessionStep.found, Mapping.readings_cons_of_ok hread]
      refine ⟨?_, h.text_eq, ⟨mapping, List.getLast?_concat, ?_⟩, ?_⟩
      · rw [hregistry]
        exact h.source
      · have hversion : session.service.registry.current.version = readings.length := by
          change session.catalog.version = readings.length
          rw [hlast]
          rfl
        unfold Session.catalog
        rw [hregistry, Registry.install, hversion, List.length_append]
        rfl
      · unfold Session.catalog
        rw [hregistry]
        rfl

theorem Shows.run (h : session.Shows text readings) (steps : List SessionStep) :
    (session.run steps).Shows (textAfter text steps)
      (readings ++ Mapping.readings (found text steps)) := by
  induction steps generalizing session text readings with
  | nil => exact h.of_registry_eq h.text_eq rfl
  | cons step rest ih =>
    rw [found, Mapping.readings_append, ← List.append_assoc]
    exact ih (h.after step)

theorem shows_of_start {settings : SearchSettings} {backendName : String} {patience : Nat}
    (h : start text settings backendName patience = .ok session) :
    ∃ mapping, Mapping.ofFile text = .ok mapping ∧ session.Shows text [mapping] := by
  obtain ⟨registry, hload, rfl⟩ := Attempts.map_eq_ok_iff.mp h
  obtain ⟨mapping, hread, rfl⟩ := Attempts.map_eq_ok_iff.mp hload
  rw [read_filesOf] at hread
  exact ⟨mapping, hread, rfl, rfl, ⟨mapping, rfl, rfl⟩, rfl⟩

theorem Shows.count_events (h : session.Shows text readings) (step : SessionStep) :
    (session.events step).count (.schemaRefresh .success) =
        (Mapping.readings (step.found text)).length ∧
      (session.events step).count (.schemaRefresh .failure) =
        Mapping.failures (step.found text) := by
  cases step with
  | refresh =>
    cases hread : Mapping.ofFile text with
    | error fault =>
      rw [(h.refresh_of_error hread).2.2]
      simp [SessionStep.found, Mapping.readings, Mapping.failures, hread, Except.toOption]
    | ok mapping =>
      rw [(h.refresh_of_ok hread).2]
      simp [SessionStep.found, Mapping.readings, Mapping.failures, hread, Except.toOption]
  | search now reply request =>
    have hnone := session.service.count_refresh_search now reply request
    exact ⟨hnone .success, hnone .failure⟩
  | _ => exact ⟨rfl, rfl⟩

theorem Shows.count_counted (h : session.Shows text readings) (steps : List SessionStep) :
    (session.counted steps).count (.schemaRefresh .success) =
        (Mapping.readings (found text steps)).length ∧
      (session.counted steps).count (.schemaRefresh .failure) =
        Mapping.failures (found text steps) := by
  induction steps generalizing session text readings with
  | nil => exact ⟨rfl, rfl⟩
  | cons step rest ih =>
    obtain ⟨hsuccess, hfailure⟩ := h.count_events step
    obtain ⟨hsuccesses, hfailures⟩ := ih (h.after step)
    rw [counted, found, Mapping.readings_append, List.count_append, List.count_append,
      List.length_append, hsuccess, hfailure, hsuccesses, hfailures]
    exact ⟨rfl, List.countP_append.symm⟩

theorem held_prefix_run (session : Session) (steps : List SessionStep) :
    session.held <+: (session.run steps).held := by
  induction steps generalizing session with
  | nil => exact List.prefix_refl _
  | cons step rest ih =>
    have hstep : session.held <+: (session.after step).held := by
      cases step with
      | hold => exact List.prefix_append _ _
      | _ => exact List.prefix_refl _
    exact hstep.trans (ih _)

theorem service_run (session : Session) (steps : List SessionStep) :
    ∃ registry, (session.run steps).service = { session.service with registry } := by
  induction steps generalizing session with
  | nil => exact ⟨session.service.registry, rfl⟩
  | cons step rest ih =>
    have hstep : ∃ registry, (session.after step).service = { session.service with registry } := by
      cases step with
      | refresh => exact ⟨session.service.registry.afterRefresh session.files, rfl⟩
      | _ => exact ⟨session.service.registry, rfl⟩
    obtain ⟨registry, hstep⟩ := hstep
    obtain ⟨last, hlast⟩ := ih (session.after step)
    refine ⟨last, ?_⟩
    change ((session.after step).run rest).service = _
    rw [hlast, hstep]

/-- A search that ends later ends as it would have ended at once. -/
theorem concluded_run (session : Session) (steps : List SessionStep) (now : Instant)
    (reply : BackendReply) (request : SearchRequest) :
    (session.run steps).service.concluded reply (session.service.begun now request) =
      session.searched now reply request := by
  obtain ⟨registry, hservice⟩ := session.service_run steps
  rw [hservice]
  exact (session.service.search_eq_concluded now reply request).symm

/-- What holds at the end of any run of a session that started on a text. -/
structure Tracks (session : Session) (text : Option String) (steps : List SessionStep) : Prop where
  current : ∃ mapping, (Mapping.readings (text :: found text steps)).getLast? = some mapping ∧
    (session.run steps).catalog =
      Catalog.ofMapping mapping (1 + (Mapping.readings (found text steps)).length)
  published : (session.run steps).service.registry.publishedSize = (session.run steps).catalog.size
  successes : (session.counted steps).count (.schemaRefresh .success) =
    (Mapping.readings (found text steps)).length
  failures : (session.counted steps).count (.schemaRefresh .failure) =
    Mapping.failures (found text steps)
  failed : ∀ fault, Mapping.ofFile (textAfter text steps) = .error fault →
    (session.run steps).refreshed = .error fault ∧
      (session.run steps).after .refresh = session.run steps ∧
      (session.run steps).events .refresh = [.schemaRefresh .failure]
  held : ∀ later, (session.run steps).held ++ [(session.run steps).catalog] <+:
    (session.run (steps ++ .hold :: later)).held
  searches : ∀ now reply request later,
    let run := (session.run (steps ++ later)).service.concluded reply
      ((session.run steps).service.begun now request)
    run = (session.run steps).searched now reply request ∧
      run.IsPlannedOn (session.run steps).catalog session.service.settings now request

theorem run_append (session : Session) (steps others : List SessionStep) :
    session.run (steps ++ others) = (session.run steps).run others :=
  List.foldl_append

/-- At every point of a session its catalog is that of the last text that could be read, the counts
of refreshes are those of the texts that were found, and what was held or has begun stays. -/
theorem tracks_of_start {settings : SearchSettings} {backendName : String} {patience : Nat}
    (hstart : start text settings backendName patience = .ok session) (steps : List SessionStep) :
    session.Tracks text steps := by
  obtain ⟨first, hfirst, hshows⟩ := shows_of_start hstart
  have hended := hshows.run steps
  constructor
  · rw [Mapping.readings_cons_of_ok hfirst, Nat.add_comm]
    exact hended.catalog
  · exact hended.published
  · exact (hshows.count_counted steps).1
  · exact (hshows.count_counted steps).2
  · intro fault hfault
    exact hended.refresh_of_error hfault
  · intro later
    rw [run_append]
    exact held_prefix_run ((session.run steps).after .hold) later
  · intro now reply request later
    rw [run_append]
    obtain ⟨registry, hservice⟩ := session.service_run steps
    have hsettings : (session.run steps).service.settings = session.service.settings := by
      rw [hservice]
    have hrun := (session.run steps).concluded_run later now reply request
    refine ⟨hrun, ?_⟩
    rw [hrun, ← hsettings]
    exact (session.run steps).service.search_isPlannedOn now reply request

/-- The file is spoiled, rewritten and removed, with a refresh after each, of which one succeeds. -/
def sampleSteps : List SessionStep :=
  [.write "", .refresh, .hold, .write Mapping.newerText, .refresh, .remove, .refresh]

theorem start_olderText : ∃ session, start (some Mapping.olderText) {} "index" 1000 = .ok session ∧
    (session.run sampleSteps).catalog = Catalog.ofMapping Mapping.newer 2 ∧
    (session.run sampleSteps).held =
      [Catalog.ofMapping Mapping.older 1, Catalog.ofMapping Mapping.older 1] := by
  have hok : ((start (some Mapping.olderText) {} "index" 1000).map fun session =>
      ((session.run sampleSteps).catalog, (session.run sampleSteps).held)) =
      .ok (Catalog.ofMapping Mapping.newer 2,
        [Catalog.ofMapping Mapping.older 1, Catalog.ofMapping Mapping.older 1]) := by
    decide +kernel
  obtain ⟨session, hstart, hpair⟩ := Attempts.map_eq_ok_iff.mp hok
  obtain ⟨hcatalog, hheld⟩ := Prod.mk.inj hpair
  exact ⟨session, hstart, hcatalog, hheld⟩

theorem sampleSteps_tracked : ∃ session,
    start (some Mapping.olderText) {} "index" 1000 = .ok session ∧
      session.Tracks (some Mapping.olderText) sampleSteps ∧
      (session.run sampleSteps).catalog = Catalog.ofMapping Mapping.newer 2 ∧
      (session.run sampleSteps).held =
        [Catalog.ofMapping Mapping.older 1, Catalog.ofMapping Mapping.older 1] := by
  obtain ⟨session, hstart, hcatalog, hheld⟩ := start_olderText
  exact ⟨session, hstart, tracks_of_start hstart sampleSteps, hcatalog, hheld⟩

end Session

end ReportSearch
