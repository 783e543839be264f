import ReportSearch.Search.Fault

/-!
# Faults of the web interface

A fault that a client is told has a status, a code and a message, and for refused rules, facets and
columns the list of what is wrong with each.
-/

set_option autoImplicit false

namespace ReportSearch

inductive WebFault where
  | notFound (what : String)
  /-- The request as a whole is out of bounds. -/
  | validation (text : String)
  | invalidQuery (faults : List QueryFault)
  | configuration (text : String)
  | backendUnavailable (text : String)
  | catalogLoad (text : String)
  | internal (text : String)
  deriving DecidableEq, Repr

namespace WebFault

def ofSearchFault : SearchFault → WebFault
  | .invalidParts faults => invalidQuery faults
  | .sizes faults => validation (SearchFault.sizesMessage faults)
  | .beyondWindow offset limit => validation (SearchFault.windowMessage offset limit)
  | .backend fault => backendUnavailable fault.message
  | .catalog fault => catalogLoad fault.message

def status : WebFault → Nat
  | notFound _ => 404
  | validation _ => 400
  | invalidQuery _ => 400
  | configuration _ => 500
  | backendUnavailable _ => 503
  | catalogLoad _ => 500
  | internal _ => 500

def code : WebFault → String
  | notFound _ => "NOT_FOUND"
  | validation _ => "VALIDATION_ERROR"
  | invalidQuery _ => "INVALID_QUERY"
  | configuration _ => "CONFIGURATION_ERROR"
  | backendUnavailable _ => "BACKEND_UNAVAILABLE"
  | catalogLoad _ => "SCHEMA_LOAD_FAILURE"
  | internal _ => "INTERNAL_ERROR"

def message : WebFault → String
  | notFound what => "Not found: " ++ what
  | validation text => "Validation error: " ++ text
  | invalidQuery faults => "Invalid query: " ++ "; ".intercalate (faults.map QueryFault.message)
  | configuration text => "Configuration error: " ++ text
  | backendUnavailable text => "Search backend unavailable: " ++ text
  | catalogLoad text => "Schema load failure: " ++ text
  | internal text => "Internal error: " ++ text

/-- What is wrong with each refused part, for the faults that say so. -/
def details? : WebFault → Option Json
  | invalidQuery faults => some (QueryFault.jsonList faults)
  | _ => none

def json (fault : WebFault) : Json :=
  .obj [("error", .obj ([("code", .str fault.code), ("message", .str fault.message),
      ("status", .ofNat fault.status)] ++
    match fault.details? with
    | some details => [("details", details)]
    | none => []))]

end WebFault

end ReportSearch
