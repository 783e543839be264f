import ReportSearch.Catalog.Fault
import ReportSearch.Rule.Fault
import ReportSearch.Search.Request

/-!
# Faults of a search

Why a search gives no results: its request is refused, the backend does not answer, or the catalog
cannot be loaded.
-/

set_option autoImplicit false

namespace ReportSearch

inductive BackendFault where
  | timeout (millis : Nat)
  | transport (text : String)
  | status (code : Nat) (body : String)
  | undecodable (text : String)
  deriving DecidableEq, Repr

namespace BackendFault

def message : BackendFault → String
  | timeout millis => "request timed out after " ++ toString millis ++ " ms"
  | transport text => "transport error: " ++ text
  | status code body => "backend returned HTTP " ++ toString code ++ ": " ++ body
  | undecodable text => "could not decode backend response: " ++ text

end BackendFault

inductive SearchFault where
  /-- Rules, facets or columns that were refused; there is at least one. -/
  | invalidParts (faults : List QueryFault)
  /-- Parts of the request that are too large or too small. -/
  | sizes (faults : List (String × SizeFault))
  | beyondWindow (offset limit : Nat)
  | backend (fault : BackendFault)
  | catalog (fault : CatalogFault)
  deriving DecidableEq, Repr

namespace SearchFault

def windowMessage (offset limit : Nat) : String :=
  "offset " ++ toString offset ++ " plus limit " ++ toString limit ++
    " exceeds the result window of " ++ toString SearchRequest.resultWindow

def partsMessage (faults : List QueryFault) : String :=
  "Search request has " ++ toString faults.length ++ " invalid part(s): " ++
    "; ".intercalate (faults.map QueryFault.message)

/-- What a refused request is told, each part that is too large or too small by its name. -/
def sizesMessage (faults : List (String × SizeFault)) : String :=
  "; ".intercalate (faults.map fun (part, fault) => part ++ ": " ++ fault.code)

def message : SearchFault → String
  | invalidParts faults => partsMessage faults
  | sizes faults => "Invalid search request: " ++ sizesMessage faults
  | beyondWindow offset limit => "Invalid search request: " ++ windowMessage offset limit
  | backend fault => "Search backend unavailable: " ++ fault.message
  | catalog fault => "Schema load failure: " ++ fault.message

/-- The faults of rules, facets and columns that it carries. -/
def queryFaults : SearchFault → List QueryFault
  | invalidParts faults => faults
  | _ => []

end SearchFault

end ReportSearch
