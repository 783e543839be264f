import ReportSearch.Search.Service
import ReportSearch.Web.Fault
import ReportSearch.Web.MediaType
import ReportSearch.Web.Route

/-!
# Responses

Every request gets one response. A path that no route has is not found, a method that the route does
not take is not allowed, and both are counted like answers; requests for options are answered before
anything else and are not counted.
-/

set_option autoImplicit false

namespace ReportSearch

structure Surroundings where
  files : Files
  now : Instant
  /-- What the backend does if it is asked to search. -/
  reply : BackendReply
  /-- Why the backend cannot be reached, if it cannot. -/
  pingFault : Option BackendFault

structure WebResponse where
  status : Nat
  /-- The body, where it is JSON. -/
  body : Option Json := none

/-- What a request leads to: a response, the service afterwards, what the backend was asked, and
what was counted. -/
structure WebRun where
  response : WebResponse
  service : SearchService
  asked : List BackendRequest := []
  events : List Event := []

namespace Field

/-- A field with what can be done with it. -/
def catalogEntry (field : Field) : Json :=
  .obj (field.members ++ [("facetable", .bool field.isFacetable),
    ("operators", .ofStrings ((Operator.legalFor field.type).map Operator.name))])

end Field

namespace Catalog

def health (catalog : Catalog) : Json :=
  .obj [("status", .str "healthy"), ("version", .str serviceVersion),
    ("schema_version", .ofNat catalog.version), ("schema_fields", .ofNat catalog.size)]

/-- The catalog, or of its fields only those that can be counted by value. -/
def listing (catalog : Catalog) (onlyFacetable : Bool) : Json :=
  .obj ([("schema_version", .ofNat catalog.version)] ++
    (match catalog.tag with
      | some tag => [("schema_tag", .str tag)]
      | none => []) ++
    [("default_columns", .ofStrings catalog.defaultColumns),
      ("fields", .arr ((catalog.fields.filter fun field =>
        !onlyFacetable || field.isFacetable).map Field.catalogEntry))])

end Catalog

namespace WebResponse

def ok (body : Json) : WebResponse := { status := 200, body := some body }

def ofFault (fault : WebFault) : WebResponse := { status := fault.status, body := some fault.json }

def head (response : WebResponse) : WebResponse := { response with body := none }

end WebResponse

namespace WebRequest

/-- The most bytes that a body may have. -/
def greatestBody : Nat := 2097152

/-- Reads a search from the body, or gives the status of the refusal. What follows the first value
of the body is not looked at. -/
def searchRequest (request : WebRequest) : Except Nat SearchRequest :=
  if !request.contentType.any MediaType.isJson then .error 415
  else if greatestBody < request.body.utf8ByteSize then .error 413
  else
    match Source.decodeRequest (Source.ofText request.body).1 with
    | .ok search => .ok search
    | .error .malformed => .error 400
    | .error .mismatched => .error 422

/-- The flag of a query under a name: nothing when it is missing, a fault when it is not one of the
two words or comes twice. -/
def flag (request : WebRequest) (name : String) : Except Nat (Option Bool) :=
  let pairs := Percent.formPairs (request.target.query.getD "").toList
  match pairs.filter (·.1 = name) with
  | [] => .ok none
  | [(_, "true")] => .ok (some true)
  | [(_, "false")] => .ok (some false)
  | _ => .error 400

end WebRequest

namespace SearchService

def unchanged (service : SearchService) (response : WebResponse) : WebRun := { response, service }

def refusal (service : SearchService) (status : Nat) : WebRun := service.unchanged { status }

def fieldResponse (catalog : Catalog) (name : List Char) : WebResponse :=
  match Percent.decode? name with
  | none => { status := 400 }
  | some name =>
    match catalog.lookup? name with
    | some field => .ok field.catalogEntry
    | none => .ofFault (.notFound ("Field '" ++ name ++ "'"))

def readyResponse (service : SearchService) (pingFault : Option BackendFault) : WebResponse :=
  match pingFault with
  | some fault =>
    .ofFault (.backendUnavailable (service.backendName ++ ": " ++ fault.message))
  | none => .ok service.registry.current.health

def searchResponse : Except SearchFault SearchAnswer → WebResponse
  | .ok answer => .ok answer.json
  | .error fault => .ofFault (.ofSearchFault fault)

def refreshResponse : Except CatalogFault Registry → WebResponse
  | .ok registry => .ok (.obj [("schema_version", .ofNat registry.current.version),
      ("fields", .ofNat registry.current.size)])
  | .error fault => .ofFault (.catalogLoad fault.message)

/-- Answers a request whose route takes its method. -/
def serve (service : SearchService) (around : Surroundings) (request : WebRequest) :
    Route → WebRun
  | .health | .live => service.unchanged (.ok service.registry.current.health)
  | .ready => service.unchanged (service.readyResponse around.pingFault)
  | .metrics => service.refusal 200
  | .fields =>
    match request.flag "facetable" with
    | .ok flag =>
      service.unchanged (.ok (service.registry.current.listing (flag.getD false)))
    | .error status => service.refusal status
  | .field name => service.unchanged (fieldResponse service.registry.current name)
  | .search =>
    match request.searchRequest with
    | .ok search =>
      let run := service.search around.now around.reply search
      { response := searchResponse run.result, service, asked := run.asked, events := run.events }
    | .error status => service.refusal status
  | .refresh =>
    { response := refreshResponse (service.registry.refresh around.files)
      service := service.afterRefresh around.files
      events := service.registry.refreshEvents around.files }

def counted (method path : String) (run : WebRun) : WebRun :=
  { run with events := run.events ++
      [.httpRequest method path run.response.status, .httpDuration method path] }

/-- Answers a request that has come past the answers to options. -/
def route (service : SearchService) (around : Surroundings) (request : WebRequest) : WebRun :=
  match Route.ofPath? request.target.path with
  | none => counted request.method request.target.path (service.refusal 404)
  | some route =>
    let run :=
      if route.takes request.method then service.serve around request route
      else service.refusal 405
    if route.isCounted then counted request.method route.template run else run

def respond (service : SearchService) (around : Surroundings) (request : WebRequest) : WebRun :=
  if request.method = "OPTIONS" then service.refusal 200
  else
    let run := service.route around request
    if request.method = "HEAD" then { run with response := run.response.head } else run

end SearchService

end ReportSearch
