import ReportSearch.Search.Document
import ReportSearch.Search.Plan

/-!
# Answers of a search

A backend answers with documents and counts. The answer of a search shows of each document its row,
and of the counts those of the facets that were planned: a facet without counts is empty, and counts
that nobody asked for are left out.
-/

set_option autoImplicit false

namespace ReportSearch

structure FacetCount where
  term : String
  count : Nat
  deriving DecidableEq, Repr

/-- Counts by the name of their facet, which no two of them share. -/
structure FacetCounts where
  entries : List (String × List FacetCount) := []
  names_nodup : (entries.map Prod.fst).Nodup := by simp

namespace FacetCounts

def names (counts : FacetCounts) : List String := counts.entries.map Prod.fst

def lookup (counts : FacetCounts) (name : String) : Option (List FacetCount) :=
  counts.entries.lookup name

def insert (name : String) (found : List FacetCount) (counts : FacetCounts) : FacetCounts where
  entries := Json.insertMember name found counts.entries
  names_nodup := Json.nodup_keys_insertMember name found counts.names_nodup

def filter (keep : String → Bool) (counts : FacetCounts) : FacetCounts where
  entries := counts.entries.filter fun (name, _) => keep name
  names_nodup := counts.names_nodup.sublist (List.filter_sublist.map Prod.fst)

/-- Of entries that share a name the last one counts. -/
def ofEntries (entries : List (String × List FacetCount)) : FacetCounts :=
  entries.foldl (fun counts (name, found) => counts.insert name found) {}

instance : Coe (List (String × List FacetCount)) FacetCounts := ⟨ofEntries⟩

end FacetCounts

/-- What a backend answers: the number of documents that match, and those of the page. -/
structure BackendAnswer where
  total : Nat := 0
  documents : List Json := []
  facets : FacetCounts := {}

structure SearchAnswer where
  rows : List Row
  total : Nat
  facets : FacetCounts
  dateRange : DateRange
  offset : Nat
  limit : Nat
  catalogVersion : Nat

namespace FacetCount

def json (bucket : FacetCount) : Json :=
  .obj [("term", .str bucket.term), ("count", .ofNat bucket.count)]

def facetsJson (facets : FacetCounts) : Json :=
  .obj (facets.entries.map fun (name, counts) => (name, .arr (counts.map json)))

end FacetCount

namespace SearchPlan

/-- The counts with an entry for a facet, which is empty if there was none. -/
def withFacet (counts : FacetCounts) (facet : Facet) : FacetCounts :=
  match counts.lookup facet.name with
  | some _ => counts
  | none => counts.insert facet.name []

/-- The counts of facets: those that nobody counted are filled in, and all others left out. -/
def countsOf (facets : List Facet) (counts : FacetCounts) : FacetCounts :=
  (facets.foldl withFacet counts).filter fun name => facets.any (·.name = name)

def answer (plan : SearchPlan) (answer : BackendAnswer) : SearchAnswer :=
  { rows := answer.documents.map (Column.row plan.request.columns)
    total := answer.total
    facets := countsOf plan.request.facets answer.facets
    dateRange := plan.dateRange
    offset := plan.request.offset
    limit := plan.request.size
    catalogVersion := plan.catalogVersion }

end SearchPlan

namespace SearchAnswer

def json (answer : SearchAnswer) : Json :=
  .obj [("hits", .arr (answer.rows.map Json.obj)), ("total", .ofNat answer.total),
    ("facets", FacetCount.facetsJson answer.facets), ("date_range", answer.dateRange.json),
    ("offset", .ofNat answer.offset), ("limit", .ofNat answer.limit),
    ("schema_version", .ofNat answer.catalogVersion)]

end SearchAnswer

namespace Source

structure CountParts where
  term : Option String := none
  count : Option Nat := none

def countSlots : List (Slot CountParts) :=
  [slot "term" (·.term) (fun parts x => { parts with term := some x }) decodeString,
    slot "count" (·.count) (fun parts x => { parts with count := some x }) decodeNat64]

def decodeCount : Decoder FacetCount :=
  decodeRecord countSlots 2 {} fun parts => do return ⟨← parts.term, ← parts.count⟩

end Source

end ReportSearch
