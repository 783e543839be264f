import ReportSearch.Catalog.Basic
import ReportSearch.Metrics

/-!
# The registry

A registry holds the current catalog and knows where its mapping is kept. A refresh reads the
mapping again and then installs it under the next version; when it cannot be read, nothing changes.
The number of fields is published with every catalog that is installed.
-/

set_option autoImplicit false

namespace ReportSearch

inductive CatalogSource where
  | bundled
  | file (path : String)
  | inline (text : String)
  deriving DecidableEq, Repr

/-- The texts of files; a path without a text cannot be read. -/
abbrev Files := String → Option String

namespace CatalogSource

def read (files : Files) : CatalogSource → Except CatalogFault Mapping
  | bundled => Mapping.ofJson CrashReports.mapping
  | inline text => Mapping.ofText text
  | file path =>
    match files path with
    | some text => Mapping.ofText text
    | none => .error .unreadable

def json : CatalogSource → Json
  | bundled => .obj [("kind", .str "bundled")]
  | file path => .obj [("kind", .str "file"), ("value", .str path)]
  | inline text => .obj [("kind", .str "inline"), ("value", .str text)]

end CatalogSource

structure Registry where
  source : CatalogSource
  current : Catalog
  /-- The number of fields that was published last. -/
  publishedSize : Nat
  deriving DecidableEq, Repr

namespace Registry

def load (files : Files) (source : CatalogSource) : Except CatalogFault Registry :=
  (source.read files).map fun mapping =>
    let catalog := Catalog.ofMapping mapping 1
    { source, current := catalog, publishedSize := catalog.size }

/-- Replaces the current catalog by a mapping that was read, under the next version. -/
def install (registry : Registry) (mapping : Mapping) : Registry :=
  let catalog := Catalog.ofMapping mapping (registry.current.version + 1)
  { registry with current := catalog, publishedSize := catalog.size }

/-- Reads the source again and installs what it holds. -/
def refresh (files : Files) (registry : Registry) : Except CatalogFault Registry :=
  (registry.source.read files).map registry.install

/-- The registry after a refresh, whether it succeeded or not. -/
def afterRefresh (files : Files) (registry : Registry) : Registry :=
  match registry.refresh files with
  | .ok refreshed => refreshed
  | .error _ => registry

def refreshEvents (files : Files) (registry : Registry) : List Event :=
  match registry.refresh files with
  | .ok _ => [.schemaRefresh .success]
  | .error _ => [.schemaRefresh .failure]

end Registry

namespace Source

structure SourceParts where
  kind : Option String := none
  value : Option Source := none

def sourceSlots : List (Slot SourceParts) :=
  [slot "kind" (·.kind) (fun parts x => { parts with kind := some x }) decodeString,
    slot "value" (·.value) (fun parts x => { parts with value := some x })
      fun source => if source.isGrammatical then .ok source else .error .malformed]

def decodeCatalogSource : Decoder CatalogSource := fun source => do
  let parts ← decodeRecord sourceSlots 2 {} some source
  match parts.kind, parts.value with
  | some "bundled", none => return .bundled
  | some "bundled", some value => (decodeNull value).map fun _ => .bundled
  | some "file", some value => (decodeString value).map .file
  | some "inline", some value => (decodeString value).map .inline
  | _, _ => throw .mismatched

end Source

end ReportSearch
