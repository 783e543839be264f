import ReportSearch.Catalog.Registry
import ReportSearch.Config.Environment
import ReportSearch.Config.Toml.Document
import ReportSearch.Index.Settings
import ReportSearch.Search.Settings

/-!
# Settings of the service

What the service is told when it starts. The built-in settings come first, then those of a file,
then those of the environment; each is laid over the ones before it.
-/

set_option autoImplicit false

namespace ReportSearch

structure ListenSettings where
  host : String := "0.0.0.0"
  portNumber : Nat := 8080
  deriving DecidableEq, Repr

structure CatalogSettings where
  path : Option String := none
  /-- Whether a hang-up signal makes the service read its mapping again. -/
  reloadsOnHangUp : Bool := false
  deriving DecidableEq, Repr

structure ObservationSettings where
  logLevel : String := "info"
  jsonLogs : Bool := false
  serviceName : String := "crash-query"
  publishesMetrics : Bool := true
  deriving DecidableEq, Repr

structure ServiceSettings where
  listen : ListenSettings
  index : IndexSettings := {}
  catalog : CatalogSettings := {}
  search : SearchSettings := {}
  observation : ObservationSettings
  deriving DecidableEq, Repr

inductive SettingsFault where
  /-- The file is not well-formed. -/
  | malformed
  /-- A setting does not fit its place. -/
  | misfit
  deriving DecidableEq, Repr

namespace ListenSettings

/-- Where to listen, as a host and a number. -/
def address (settings : ListenSettings) : String :=
  settings.host ++ ":" ++ toString settings.portNumber

/-- The number has 16 bits; of a greater one the lowest 16 count. -/
def portLimit : Nat := 0x10000

def ofSetting? (held : Setting) : Option ListenSettings := do
  let defaults : ListenSettings := {}
  let host ← held.part? 0 "host" (some defaults.host) Setting.text?
  let number ← held.part? 1 "http_port" (some defaults.portNumber) Setting.natural?
  return ⟨host, number % portLimit⟩

def json (settings : ListenSettings) : Json :=
  .obj [("host", .str settings.host), ("http_port", .ofNat settings.portNumber)]

end ListenSettings

namespace CatalogSettings

def source (settings : CatalogSettings) : CatalogSource :=
  match settings.path with
  | some path => .file path
  | none => .bundled

def ofSetting? (held : Setting) : Option CatalogSettings := do
  let defaults : CatalogSettings := {}
  let path ← held.part? 0 "path" (some defaults.path) (Setting.optional? Setting.text?)
  let reloads ← held.part? 1 "reload_on_sighup" (some defaults.reloadsOnHangUp) Setting.flag?
  return ⟨path, reloads⟩

def json (settings : CatalogSettings) : Json :=
  .obj [("path", .ofText? settings.path), ("reload_on_sighup", .bool settings.reloadsOnHangUp)]

end CatalogSettings

namespace ObservationSettings

def ofSetting? (held : Setting) : Option ObservationSettings := do
  let defaults : ObservationSettings := {}
  let logLevel ← held.part? 0 "log_level" (some defaults.logLevel) Setting.text?
  let jsonLogs ← held.part? 1 "json_logs" (some defaults.jsonLogs) Setting.flag?
  let serviceName ← held.part? 2 "service_name" (some defaults.serviceName) Setting.text?
  let publishes ← held.part? 3 "prometheus_enabled" (some defaults.publishesMetrics) Setting.flag?
  return ⟨logLevel, jsonLogs, serviceName, publishes⟩

def json (settings : ObservationSettings) : Json :=
  .obj [("log_level", .str settings.logLevel), ("json_logs", .bool settings.jsonLogs),
    ("service_name", .str settings.serviceName),
    ("prometheus_enabled", .bool settings.publishesMetrics)]

end ObservationSettings

namespace IndexSettings

def ofSetting? (held : Setting) : Option IndexSettings := do
  let defaults : IndexSettings := {}
  let url ← held.part? 0 "url" (some defaults.url) Setting.text?
  let index ← held.part? 1 "index" (some defaults.index) Setting.text?
  let timeout ← held.part? 2 "timeout_secs" (some defaults.timeout) Setting.natural?
  let text? := Setting.optional? Setting.text?
  let username ← held.part? 3 "username" (some defaults.username) text?
  let password ← held.part? 4 "password" (some defaults.password) text?
  return ⟨url, index, timeout, username, password⟩

end IndexSettings

namespace SearchSettings

def ofSetting? (held : Setting) : Option SearchSettings := do
  let defaults : SearchSettings := {}
  let dateField ← held.part? 0 "date_field" (some defaults.dateField) Setting.text?
  let days ← held.part? 1 "default_days" (some defaults.defaultDays) Setting.integer?
  let limit ← held.part? 2 "default_limit" (some defaults.defaultLimit) Setting.natural?
  let maxLimit ← held.part? 3 "max_limit" (some defaults.maxLimit) Setting.natural?
  let size ← held.part? 4 "default_facet_size" (some defaults.defaultFacetSize) Setting.natural?
  let maxSize ← held.part? 5 "max_facet_size" (some defaults.maxFacetSize) Setting.natural?
  return ⟨dateField, days, limit, maxLimit, size, maxSize⟩

end SearchSettings

namespace ServiceSettings

def builtIn : List (String × Setting) :=
  [("server", .table [("host", .text "0.0.0.0"), ("http_port", .integer 8080)]),
    ("backend", .table [("url", .text "http://localhost:9200"),
      ("index", .text "socorro_reports"), ("timeout_secs", .integer 10)]),
    ("schema", .table [("reload_on_sighup", .flag true)]),
    ("search", .table [("date_field", .text "date_processed"), ("default_days", .integer 7),
      ("default_limit", .integer 100), ("max_limit", .integer 1000),
      ("default_facet_size", .integer 50), ("max_facet_size", .integer 1000)]),
    ("observability", .table [("log_level", .text "info"), ("json_logs", .flag false),
      ("service_name", .text "crash-query"), ("prometheus_enabled", .flag true)])]

/-- The settings in a tree of settings; the listening address and the observation are required. -/
def ofSetting? (held : Setting) : Option ServiceSettings := do
  let listen ← held.part? 0 "server" none ListenSettings.ofSetting?
  let index ← held.part? 1 "backend" (some {}) IndexSettings.ofSetting?
  let catalog ← held.part? 2 "schema" (some {}) CatalogSettings.ofSetting?
  let search ← held.part? 3 "search" (some {}) SearchSettings.ofSetting?
  let observation ← held.part? 4 "observability" none ObservationSettings.ofSetting?
  return { listen, index, catalog, search, observation }

/-- The settings of several sources, the later ones laid over the earlier ones. -/
def ofSources (sources : List (List (String × Setting))) : Except SettingsFault ServiceSettings :=
  match ofSetting? (sources.foldl Setting.overlaySource (.table [])) with
  | some settings => .ok settings
  | none => .error .misfit

/-- The entries of a file of settings; no file has none. -/
def fileSource : Option String → Except SettingsFault (List (String × Setting))
  | none => .ok []
  | some text =>
    match Toml.parse? (String.ofList (Toml.afterMark text.toList)) with
    | some entries => .ok entries
    | none => .error .malformed

def load (file : Option String) (environment : Environment) :
    Except SettingsFault ServiceSettings := do
  ofSources [builtIn, ← fileSource file, environment.source]

def json (settings : ServiceSettings) : Json :=
  .obj [("server", settings.listen.json), ("backend", settings.index.json),
    ("schema", settings.catalog.json), ("search", settings.search.json),
    ("observability", settings.observation.json)]

end ServiceSettings

end ReportSearch
