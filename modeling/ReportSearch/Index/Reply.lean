import ReportSearch.Json.Printer
import ReportSearch.Search.Answer

/-!
# Replies of the search index

A reply counts the hits, as a number or as an object with a value, and lists those of the page; a
count that is missing is the length of the list. Each aggregation lists buckets of a key and a
number of documents. A key has a text of its own or stands for its JSON text.
-/

set_option autoImplicit false

namespace ReportSearch

structure IndexBucket where
  key : Json
  keyText : Option String
  count : Nat

namespace IndexBucket

def term (bucket : IndexBucket) : String :=
  match bucket.keyText, bucket.key with
  | some text, _ => text
  | none, .str text => text
  | none, key => key.compact

def facetCount (bucket : IndexBucket) : FacetCount := ⟨bucket.term, bucket.count⟩

end IndexBucket

structure IndexHits where
  total : Option Nat := none
  documents : List Json := []

structure IndexReply where
  hits : IndexHits
  aggregations : List (String × List IndexBucket) := []

namespace IndexReply

def answer (reply : IndexReply) : BackendAnswer :=
  { total := reply.hits.total.getD reply.hits.documents.length
    documents := reply.hits.documents
    facets := .ofEntries (reply.aggregations.map fun (name, buckets) =>
      (name, buckets.map IndexBucket.facetCount)) }

end IndexReply

namespace Source

structure TotalParts where
  value : Option Nat := none

def totalSlots : List (Slot TotalParts) :=
  [slot "value" (·.value) (fun parts x => { parts with value := some x }) decodeNat64]

/-- The number of hits, by itself or as the value of an object. -/
def decodeTotal : Decoder Nat := fun source =>
  if source.json?.isNone then .error .malformed
  else
    match source with
    | obj .. => decodeRecord totalSlots 1 {} (·.value) source
    | other => decodeNat64 other

structure HitParts where
  document : Option Json := none

def hitSlots : List (Slot HitParts) :=
  [slot "_source" (·.document) (fun parts x => { parts with document := some x }) decodeJson]

/-- The document of a hit, or null where it has none. -/
def decodeHit : Decoder Json :=
  decodeRecord hitSlots 0 {} fun parts => some (parts.document.getD .null)

structure HitsParts where
  total : Option (Option Nat) := none
  documents : Option (List Json) := none

def hitsSlots : List (Slot HitsParts) :=
  [slot "total" (·.total) (fun parts x => { parts with total := some x })
      (decodeOptional decodeTotal),
    slot "hits" (·.documents) (fun parts x => { parts with documents := some x })
      (decodeList decodeHit)]

def decodeHits : Decoder IndexHits :=
  decodeRecord hitsSlots 0 {} fun parts =>
    some { total := parts.total.getD none, documents := parts.documents.getD [] }

structure BucketParts where
  key : Option Json := none
  keyText : Option (Option String) := none
  count : Option Nat := none

def bucketSlots : List (Slot BucketParts) :=
  [slot "key" (·.key) (fun parts x => { parts with key := some x }) decodeJson,
    slot "key_as_string" (·.keyText) (fun parts x => { parts with keyText := some x })
      (decodeOptional decodeString),
    slot "doc_count" (·.count) (fun parts x => { parts with count := some x }) decodeNat64]

def decodeBucket : Decoder IndexBucket :=
  decodeRecord bucketSlots 3 {} fun parts => do
    return ⟨← parts.key, parts.keyText.getD none, ← parts.count⟩

structure AggregationParts where
  buckets : Option (List IndexBucket) := none

def aggregationSlots : List (Slot AggregationParts) :=
  [slot "buckets" (·.buckets) (fun parts x => { parts with buckets := some x })
    (decodeList decodeBucket)]

def decodeAggregation : Decoder (List IndexBucket) :=
  decodeRecord aggregationSlots 0 {} fun parts => some (parts.buckets.getD [])

structure ReplyParts where
  hits : Option IndexHits := none
  aggregations : Option (List (String × List IndexBucket)) := none

def replySlots : List (Slot ReplyParts) :=
  [slot "hits" (·.hits) (fun parts x => { parts with hits := some x }) decodeHits,
    slot "aggregations" (·.aggregations) (fun parts x => { parts with aggregations := some x })
      (decodeEntries decodeAggregation)]

def decodeIndexReply : Decoder IndexReply :=
  decodeRecord replySlots 1 {} fun parts =>
    parts.hits.map fun hits => { hits, aggregations := parts.aggregations.getD [] }

end Source

end ReportSearch
