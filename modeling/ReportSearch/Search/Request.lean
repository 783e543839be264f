import ReportSearch.Rule.Basic
import ReportSearch.Selection

/-!
# Search requests

What a client asks for: rules, facets, columns and a page of the results. The sizes of its parts are
limited before anything else is looked at.
-/

set_option autoImplicit false

namespace ReportSearch

structure SearchRequest where
  rules : List Rule := []
  facets : List FacetRequest := []
  columns : List String := []
  offset : Nat := 0
  /-- The size of the page; the settings give one where it is missing. -/
  limit : Option Nat := none

/-- What is wrong with the size of a part of a request. -/
inductive SizeFault where
  | length
  | range
  deriving DecidableEq, Repr

namespace SizeFault

def code : SizeFault → String
  | length => "length"
  | range => "range"

end SizeFault

namespace SearchRequest

def mostRules : Nat := 200
def mostFacets : Nat := 50
def mostColumns : Nat := 200

/-- The greatest offset, and the last result that a page may reach. -/
def resultWindow : Nat := 10000

def json (request : SearchRequest) : Json :=
  .obj [("rules", .arr (request.rules.map Rule.json)),
    ("facets", .arr (request.facets.map FacetRequest.json)),
    ("columns", .ofStrings request.columns), ("offset", .ofNat request.offset),
    ("limit", (request.limit.map Json.ofNat).getD .null)]

/-- The parts whose size is out of bounds, in order of their names. -/
def sizeFaults (request : SearchRequest) : List (String × SizeFault) :=
  (if mostColumns < request.columns.length then [("columns", .length)] else []) ++
    (if mostFacets < request.facets.length then [("facets", .length)] else []) ++
    (if request.limit = some 0 then [("limit", .range)] else []) ++
    (if resultWindow < request.offset then [("offset", .range)] else []) ++
    (if mostRules < request.rules.length then [("rules", .length)] else [])

def sizeFaultsJson (faults : List (String × SizeFault)) : Json :=
  .arr (faults.map fun (part, fault) => .arr [.str part, .ofStrings [fault.code]])

end SearchRequest

namespace Source

structure RequestParts where
  rules : Option (List Rule) := none
  facets : Option (List FacetRequest) := none
  columns : Option (List String) := none
  offset : Option Nat := none
  limit : Option (Option Nat) := none

def requestSlots : List (Slot RequestParts) :=
  [slot "rules" (·.rules) (fun parts x => { parts with rules := some x }) (decodeList decodeRule),
    slot "facets" (·.facets) (fun parts x => { parts with facets := some x })
      (decodeList decodeFacet),
    slot "columns" (·.columns) (fun parts x => { parts with columns := some x })
      (decodeList decodeString),
    slot "offset" (·.offset) (fun parts x => { parts with offset := some x }) decodeNat64,
    slot "limit" (·.limit) (fun parts x => { parts with limit := some x })
      (decodeOptional decodeNat64)]

def finishRequest (parts : RequestParts) : SearchRequest :=
  { rules := parts.rules.getD [], facets := parts.facets.getD [], columns := parts.columns.getD []
    offset := parts.offset.getD 0, limit := parts.limit.getD none }

def decodeRequest : Decoder SearchRequest :=
  decodeRecord requestSlots 0 {} fun parts => some (finishRequest parts)

end Source

end ReportSearch
