import ReportSearch.Command.Run
import ReportSearch.Proofs.Catalog.Reading
import ReportSearch.Proofs.Search.Request
import ReportSearch.Web.Respond

/-!
# Searches that are posted

What a command line asks a server to search comes back there as it was built, unless its body is
larger than a body may be. So the server plans what compiling the same words shows.
-/

set_option autoImplicit false

namespace ReportSearch

open Text

/-- A value without numbers in which nothing is nested but texts in a list. -/
structure Json.IsPlain (value : Json) : Prop where
  keys : value.KeysDistinct
  numbers : value.numbers = []
  nesting : value.nesting ≤ 1

theorem Json.isPlain_ofStrings (texts : List String) : (ofStrings texts).IsPlain := by
  refine ⟨itemsDistinct_iff.mpr ?_, ?_, Nat.succ_le_succ (nestingOfItems_le_iff.mpr ?_)⟩
  · exact List.forall_mem_map.mpr fun _ _ => trivial
  · apply List.eq_nil_iff_forall_not_mem.mpr
    have hnone : ∀ n ∈ numbersOfItems (texts.map str), False :=
      forall_numbersOfItems.mpr (List.forall_mem_map.mpr fun _ _ _ => List.not_mem_nil)
    exact hnone
  · exact List.forall_mem_map.mpr fun _ _ => Nat.le_refl 0

theorem Rule.isPlain_shorthandValue (operator : String) (value : Option (List Char)) :
    (shorthandValue operator value).IsPlain := by
  cases value with
  | none => exact ⟨trivial, rfl, Nat.zero_le 1⟩
  | some value =>
    unfold shorthandValue
    dsimp only
    split
    · exact Json.isPlain_ofStrings _
    · exact ⟨trivial, rfl, Nat.zero_le 1⟩

theorem Rule.isPlain_of_ofShorthand {text : String} {rule : Rule}
    (h : ofShorthand text = .ok rule) : rule.value.IsPlain := by
  unfold ofShorthand at h
  split at h
  · cases h
  · cases h
    exact isPlain_shorthandValue _ _

theorem Text.le_of_readNat64? {text : String} {n : Nat} (h : readNat64? text = some n) :
    n ≤ Number.greatestNat64 := by
  unfold readNat64? at h
  obtain ⟨m, -, hm⟩ := Option.bind_eq_some_iff.mp h
  split at hm
  · rename_i hfits
    cases hm
    exact Nat.le_of_lt_succ hfits
  · cases hm

theorem FacetRequest.size_le_of_ofShorthand {text : String} {facet : FacetRequest}
    (h : ofShorthand text = .ok facet) : ∀ size ∈ facet.size, size ≤ Number.greatestNat64 := by
  unfold ofShorthand at h
  split at h
  · cases h
    intro size hsize
    cases hsize
  · split at h
    · rename_i found hfound
      cases h
      intro size hsize
      cases hsize
      exact le_of_readNat64? hfound
    · cases h

namespace QueryArguments

variable {query : QueryArguments} {request : SearchRequest}

theorem request_eq_ok (h : query.request = .ok request) :
    List.Forall₂ (fun text rule => Rule.ofShorthand text = .ok rule) query.rules request.rules ∧
      List.Forall₂ (fun text facet => FacetRequest.ofShorthand text = .ok facet) query.facets
        request.facets ∧
      request.offset = query.offset ∧ request.limit = query.limit := by
  simp only [QueryArguments.request, Attempts.bind_eq_ok_iff, Attempts.mapM_eq_ok_iff] at h
  obtain ⟨rules, hrules, facets, hfacets, hrequest⟩ := h
  cases hrequest
  exact ⟨hrules, hfacets, rfl, rfl⟩

theorem isPlain_of_request (h : query.request = .ok request) :
    ∀ rule ∈ request.rules, rule.value.IsPlain := by
  intro rule hrule
  obtain ⟨text, -, htext⟩ := Attempts.exists_of_mem_right (request_eq_ok h).1 rule hrule
  exact Rule.isPlain_of_ofShorthand htext

theorem comesBack_of_request (h : query.request = .ok request) : request.ComesBack := by
  intro rule hrule
  have hplain := isPlain_of_request h rule hrule
  refine ⟨hplain.nesting.trans (by decide), ?_⟩
  intro x hx
  rw [hplain.numbers] at hx
  exact absurd hx List.not_mem_nil

theorem counts_le (arguments : Arguments) :
    (ofArguments arguments).offset ≤ Number.greatestNat64 ∧
      ∀ limit ∈ (ofArguments arguments).limit, limit ≤ Number.greatestNat64 := by
  have hcount : ∀ name n, (arguments.valuesOf name).head?.bind readNat64? = some n →
      n ≤ Number.greatestNat64 := by
    intro name n hn
    obtain ⟨text, -, hread⟩ := Option.bind_eq_some_iff.mp hn
    exact le_of_readNat64? hread
  refine ⟨?_, fun limit hlimit => hcount "limit" limit hlimit⟩
  unfold ofArguments
  cases hoffset : (arguments.valuesOf "offset").head?.bind readNat64? with
  | none => exact Nat.zero_le _
  | some n => exact hcount "offset" n hoffset

theorem isRepresented_of_request {arguments : Arguments}
    (h : (ofArguments arguments).request = .ok request) : request.IsRepresented := by
  obtain ⟨-, hfacets, hoffset, hlimit⟩ := request_eq_ok h
  obtain ⟨hoffsetLe, hlimitLe⟩ := counts_le arguments
  refine ⟨fun rule hrule => (isPlain_of_request h rule hrule).keys, ?_, ?_, ?_, ?_⟩
  · intro rule hrule n hn
    rw [(isPlain_of_request h rule hrule).numbers] at hn
    exact absurd hn List.not_mem_nil
  · intro facet hfacet
    obtain ⟨text, -, htext⟩ := Attempts.exists_of_mem_right hfacets facet hfacet
    exact FacetRequest.size_le_of_ofShorthand htext
  · rw [hoffset]
    exact hoffsetLe
  · rw [hlimit]
    exact hlimitLe

end QueryArguments

theorem Invocation.search_of_ofWords {words : List String} {invocation : Invocation}
    {query : QueryArguments} (h : ofWords words = .ok invocation)
    (hcommand : invocation.command = .search query) :
    ∃ arguments, query = QueryArguments.ofArguments arguments := by
  obtain ⟨read, -, hread⟩ := Attempts.bind_eq_ok_iff.mp h
  split at hread
  · obtain ⟨settled, -, hsettled⟩ := Attempts.bind_eq_ok_iff.mp hread
    cases hsettled
  · cases hread
  · obtain ⟨own, -, hown⟩ := Attempts.bind_eq_ok_iff.mp hread
    obtain ⟨settled, -, hsettled⟩ := Attempts.bind_eq_ok_iff.mp hown
    cases hsettled
    refine ⟨own, ?_⟩
    dsimp only at hcommand
    unfold Command.ofArguments at hcommand
    split at hcommand <;> cases hcommand
    rfl

/-- What a server receives of a call to its route for searches. -/
structure WebRequest.IsSearchOf (received : WebRequest) (call : WebCall) : Prop where
  method : received.method = call.method
  path : received.target.path = Route.search.template
  contentType : received.contentType = call.contentType?
  body : ∃ body, call.body = some body ∧ received.body = body.compact

/-- The backend is asked what compiling shows of the request, or the fault that compiling shows is
told. -/
def WebRun.ShowsCompiled (run : WebRun) (catalog : Catalog) (now : Instant)
    (request : SearchRequest) : Prop :=
  (∃ plan, SearchPlan.ofRequest catalog {} now request = .ok plan ∧
    request.compiled catalog now = plan.outline ∧ run.asked = [plan.request]) ∨
  ∃ fault, SearchPlan.ofRequest catalog {} now request = .error fault ∧
    request.compiled catalog now = fault.outline ∧ run.asked = [] ∧
    run.response = .ofFault (.ofSearchFault fault)

namespace SearchService

variable {service : SearchService} {around : Surroundings} {received : WebRequest}
variable {request : SearchRequest}

/-- A search that is posted is answered by its route; besides, it is counted. -/
theorem respond_posted (hmethod : received.method = "POST")
    (hpath : received.target.path = Route.search.template) :
    (service.respond around received).asked = (service.serve around received .search).asked ∧
      (service.respond around received).response =
        (service.serve around received .search).response := by
  have hroute : Route.ofPath? received.target.path = some .search := by
    rw [hpath]
    decide
  have htakes : Route.search.takes received.method = true := by
    rw [hmethod]
    decide
  have hoptions : received.method ≠ "OPTIONS" := by
    rw [hmethod]
    decide
  have hhead : received.method ≠ "HEAD" := by
    rw [hmethod]
    decide
  simp [respond, route, hroute, htakes, hoptions, hhead, counted, Route.isCounted]

theorem respond_of_error {status : Nat} (hmethod : received.method = "POST")
    (hpath : received.target.path = Route.search.template)
    (h : received.searchRequest = .error status) :
    (service.respond around received).asked = [] ∧
      (service.respond around received).response = { status } := by
  obtain ⟨hasked, hresponse⟩ := @respond_posted service around received hmethod hpath
  rw [hasked, hresponse, serve, h]
  exact ⟨rfl, rfl⟩

theorem showsCompiled_of_respond (hmethod : received.method = "POST")
    (hpath : received.target.path = Route.search.template)
    (h : received.searchRequest = .ok request) (hsettings : service.settings = {}) :
    (service.respond around received).ShowsCompiled service.registry.current around.now
      request := by
  obtain ⟨hasked, hresponse⟩ := @respond_posted service around received hmethod hpath
  rw [serve, h] at hasked hresponse
  dsimp only at hasked hresponse
  unfold search at hasked hresponse
  rw [hsettings] at hasked hresponse
  cases hplan : SearchPlan.ofRequest service.registry.current {} around.now request with
  | error fault =>
    rw [hplan] at hasked hresponse
    refine Or.inr ⟨fault, hplan, ?_, hasked, hresponse⟩
    rw [SearchRequest.compiled, hplan]
  | ok plan =>
    rw [hplan] at hasked hresponse
    have hone : (service.asked plan (around.reply.within service.patience)).asked =
        [plan.request] := by
      cases around.reply.within service.patience with
      | ok answer => rfl
      | error fault => rfl
    refine Or.inl ⟨plan, hplan, ?_, hasked.trans hone⟩
    rw [SearchRequest.compiled, hplan]

end SearchService

namespace WebRequest

variable {received : WebRequest} {request : SearchRequest}

theorem isJson_of_contentType (h : received.contentType = some "application/json") :
    received.contentType.any MediaType.isJson = true := by
  rw [h]
  decide

theorem searchRequest_of_tooLarge (hcontent : received.contentType = some "application/json")
    (hsize : greatestBody < received.body.utf8ByteSize) : received.searchRequest = .error 413 := by
  simp [searchRequest, isJson_of_contentType hcontent, hsize]

/-- A body that holds a request is read as the request, if its values come back. -/
theorem searchRequest_of_compact (h : request.IsRepresented) (hback : request.ComesBack)
    (hcontent : received.contentType = some "application/json")
    (hbody : received.body = request.json.compact)
    (hsize : received.body.utf8ByteSize ≤ greatestBody) :
    received.searchRequest = .ok request := by
  have hread : Source.decodeRequest (Source.ofText received.body).1 = .ok request := by
    rw [hbody]
    exact (SearchRequest.decodeRequest_ofText_iff h request.forms_json).mpr hback
  simp [searchRequest, isJson_of_contentType hcontent, Nat.not_lt.mpr hsize, hread]

end WebRequest

namespace SearchRequest

open Source WebRequest

/-- A request comes back from the value that it is written as; from the text exactly when the values
of its rules do, and otherwise nothing but these is changed. Each way to write its facets is decoded
alike. A search of a command line always comes back, and a server with the same catalog, settings
and clock plans it as compiling shows, unless the body is larger than a body may be. -/
theorem wire_round_trip :
    (∀ request : SearchRequest, request.IsRepresented →
      decodeValue? decodeRequest request.json = some request ∧
      (decodeText? decodeRequest request.json.compact = some request ↔ request.ComesBack) ∧
      (∀ found, decodeText? decodeRequest request.json.compact = some found →
        request.DiffersInValues found) ∧
      ∀ facets, List.Forall₂ FacetRequest.IsForm request.facets facets →
        decodeValue? decodeRequest (request.jsonWith facets) = some request ∧
          decodeText? decodeRequest (request.jsonWith facets).compact =
            decodeText? decodeRequest request.json.compact) ∧
    ∀ words invocation query request, Invocation.ofWords words = .ok invocation →
      invocation.command = .search query → query.request = .ok request →
      request.IsRepresented ∧ request.ComesBack ∧
      ∃ call, invocation.command.call? invocation.endpoint = .ok (some call) ∧
        call.body = some request.json ∧
        ∀ (service : SearchService) (around : Surroundings) (received : WebRequest),
          received.IsSearchOf call →
          (received.body.utf8ByteSize ≤ greatestBody → service.settings = {} →
            (service.respond around received).ShowsCompiled service.registry.current around.now
              request) ∧
          (greatestBody < received.body.utf8ByteSize →
            (service.respond around received).asked = [] ∧
              (service.respond around received).response = { status := 413 }) := by
  constructor
  · intro request h
    refine ⟨decodeValue?_jsonWith h request.forms_json,
      decodeText?_jsonWith_iff h request.forms_json,
      fun found hfound => differsInValues_of_decodeText? h hfound, ?_⟩
    intro facets hfacets
    exact ⟨decodeValue?_jsonWith h hfacets, decodeText?_jsonWith h hfacets⟩
  · intro words invocation query request hwords hcommand hrequest
    obtain ⟨arguments, rfl⟩ := Invocation.search_of_ofWords hwords hcommand
    have h := QueryArguments.isRepresented_of_request hrequest
    have hback := QueryArguments.comesBack_of_request hrequest
    refine ⟨h, hback, ⟨"POST", invocation.endpoint ++ "/v1/search", none, some request.json, false⟩,
      ?_, rfl, ?_⟩
    · rw [hcommand, Command.call?, hrequest]
      rfl
    · intro service around received hreceived
      obtain ⟨hmethod, hpath, hcontent, body, hbody, htext⟩ := hreceived
      cases hbody
      constructor
      · intro hsize hsettings
        have hread := searchRequest_of_compact h hback hcontent htext hsize
        exact SearchService.showsCompiled_of_respond hmethod hpath hread hsettings
      · intro hsize
        have hread := searchRequest_of_tooLarge hcontent hsize
        exact SearchService.respond_of_error hmethod hpath hread

def sentWords : List String :=
  ["search", "-r", "system.cores:!in:2, 4", "--facet", "system.cores", "-l", "10"]

def sentQuery : QueryArguments where
  rules := ["system.cores:!in:2, 4"]
  facets := ["system.cores"]
  limit := some 10

def sentRequest : SearchRequest where
  rules := [⟨"system.cores", "in", .ofStrings ["2", "4"], true⟩]
  facets := [{ field := "system.cores" }]
  limit := some 10

def sentService : SearchService where
  registry := ⟨.bundled, Catalog.ofMapping Mapping.sample 1, Mapping.sample.fields.length⟩
  settings := {}
  backendName := "index"

def sentAround : Surroundings := ⟨fun _ => none, ⟨1700000000, 0⟩, .hangs, none⟩

def receivedRequest : WebRequest :=
  ⟨"POST", ⟨"/v1/search", none⟩, some "application/json", sentRequest.json.compact⟩

/-- A search with a facet, as it is posted and with the size of its facet written as null. -/
theorem sentRequest_comes_back :
    Invocation.ofWords sentWords = .ok ⟨Invocation.defaultEndpoint, .search sentQuery⟩ ∧
    sentQuery.request = .ok sentRequest ∧ sentRequest.IsRepresented ∧
    decodeText? decodeRequest sentRequest.json.compact = some sentRequest ∧
    decodeText? decodeRequest
        (sentRequest.jsonWith [.obj [("field", .str "system.cores"), ("size", .null)]]).compact =
      some sentRequest ∧
    (sentService.respond sentAround receivedRequest).ShowsCompiled sentService.registry.current
      sentAround.now sentRequest := by
  obtain ⟨hback, hposted⟩ := wire_round_trip
  have hwords : Invocation.ofWords sentWords =
      .ok ⟨Invocation.defaultEndpoint, .search sentQuery⟩ := by decide +kernel
  have hrequest : sentQuery.request = .ok sentRequest := by rfl
  obtain ⟨h, hcomes, call, hcall, hbody, hshows⟩ := hposted _ _ _ _ hwords rfl hrequest
  obtain ⟨-, htext, -, hforms⟩ := hback sentRequest h
  have hform : List.Forall₂ FacetRequest.IsForm sentRequest.facets
      [.obj [("field", .str "system.cores"), ("size", .null)]] :=
    .cons (.nullSize "system.cores") .nil
  have hsize : receivedRequest.body.utf8ByteSize ≤ greatestBody := by decide +kernel
  have hreceived : receivedRequest.IsSearchOf call := by
    rw [Command.call?, hrequest] at hcall
    cases hcall
    exact ⟨rfl, rfl, rfl, _, rfl, rfl⟩
  exact ⟨hwords, hrequest, h, htext.mpr hcomes, ((hforms _ hform).2).trans (htext.mpr hcomes),
    (hshows sentService sentAround receivedRequest hreceived).1 hsize rfl⟩

/-- A request for the double nearest to three times ten to the power of 23. -/
def roundedRequest : SearchRequest where
  rules := [{ field := "uptime", operator := "="
              value := .num (.double ⟨false, 4958396687196483698⟩) }]

/-- Its value is read from the text as the double below, since the power of ten is rounded. -/
theorem roundedRequest_differs :
    roundedRequest.IsRepresented ∧
    roundedRequest.rules.map (fun rule => rule.value.compact) = ["3e+23"] ∧
    (decodeText? decodeRequest roundedRequest.json.compact).map
        (fun found => found.rules.map fun rule => rule.value.compact) =
      some ["2.9999999999999997e+23"] ∧
    decodeText? decodeRequest roundedRequest.json.compact ≠ some roundedRequest := by
  have hwritten : roundedRequest.rules.map (fun rule => rule.value.compact) = ["3e+23"] := by
    decide +kernel
  have hread : (decodeText? decodeRequest roundedRequest.json.compact).map
      (fun found => found.rules.map fun rule => rule.value.compact) =
        some ["2.9999999999999997e+23"] := by
    decide +kernel
  refine ⟨⟨?_, ?_, ?_, ?_, ?_⟩, hwritten, hread, ?_⟩
  · decide
  · decide +kernel
  · decide
  · decide
  · decide
  · intro hsame
    rw [hsame, Option.map_some, hwritten] at hread
    revert hread
    decide

end SearchRequest

end ReportSearch
