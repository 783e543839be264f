import ReportSearch.Search.Service

/-!
# Sessions

A session follows one service whose mapping is kept in a file: the file is written and removed, the
catalog is refreshed, catalogs are held, and searches run, in any order. A catalog that was held
stays what it was.
-/

set_option autoImplicit false

namespace ReportSearch

structure Session where
  /-- The text of the file, while it exists. -/
  text : Option String
  service : SearchService
  /-- The catalogs that were held, the first one first. -/
  held : List Catalog

inductive SessionStep where
  | write (text : String)
  | remove
  | refresh
  | hold
  | search (now : Instant) (reply : BackendReply) (request : SearchRequest)

namespace Session

/-- The path under which the file of a session is known. -/
def path : String := "mapping.json"

def filesOf (text : Option String) : Files := fun p => if p = path then text else none

def files (session : Session) : Files := filesOf session.text

def catalog (session : Session) : Catalog := session.service.registry.current

/-- Starts a session by loading the file; the catalog that was loaded is held. -/
def start (text : Option String) (settings : SearchSettings) (backendName : String)
    (patience : Nat) : Except CatalogFault Session :=
  (Registry.load (filesOf text) (.file path)).map fun registry =>
    { text, service := { registry, settings, backendName, patience }, held := [registry.current] }

def refreshed (session : Session) : Except CatalogFault Registry :=
  session.service.registry.refresh session.files

def searched (session : Session) (now : Instant) (reply : BackendReply)
    (request : SearchRequest) : SearchRun :=
  session.service.search now reply request

def after (session : Session) : SessionStep → Session
  | .write text => { session with text := some text }
  | .remove => { session with text := none }
  | .refresh => { session with service := session.service.afterRefresh session.files }
  | .hold => { session with held := session.held ++ [session.catalog] }
  | .search .. => session

def events (session : Session) : SessionStep → List Event
  | .refresh => session.service.registry.refreshEvents session.files
  | .search now reply request => (session.searched now reply request).events
  | _ => []

def run (session : Session) (steps : List SessionStep) : Session := steps.foldl after session

end Session

end ReportSearch
