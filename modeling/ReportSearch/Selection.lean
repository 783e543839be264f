import ReportSearch.Catalog.Basic
import ReportSearch.Rule.Fault

/-!
# Facets and columns

A request selects facets, which count the values of a field, and columns, which show a field of each
document. Names are resolved against a catalog: a facet reads the first variant that keeps values,
a column reads the document under the field's name.
-/

set_option autoImplicit false

namespace ReportSearch

structure FacetRequest where
  field : String
  size : Option Nat := none
  deriving DecidableEq, Repr

/-- A facet with the path that it counts and the most values that it lists. -/
structure Facet where
  name : String
  path : String
  size : Nat
  deriving DecidableEq, Repr

inductive ColumnShape where
  | scalar
  | object
  deriving DecidableEq, Repr

structure Column where
  name : String
  path : String
  shape : ColumnShape
  deriving DecidableEq, Repr

/-- Brings a size between one and a limit, which counts as one when it is zero. -/
def clampSize (limit size : Nat) : Nat := max 1 (min size (max 1 limit))

namespace FacetRequest

def json (request : FacetRequest) : Json :=
  .obj (("field", .str request.field) ::
    match request.size with
    | some size => [("size", .ofNat size)]
    | none => [])

end FacetRequest

namespace Facet

def json (facet : Facet) : Json :=
  .obj [("name", .str facet.name), ("path", .str facet.path), ("size", .ofNat facet.size)]

/-- Facets as the aggregations of a search, by name. -/
def aggregations (facets : List Facet) : Json :=
  .obj (facets.foldl (fun members facet => Json.insertMember facet.name
    (.obj [("terms", .obj [("field", .str facet.path), ("size", .ofNat facet.size)])]) members) [])

end Facet

namespace ColumnShape

def name : ColumnShape → String
  | scalar => "scalar"
  | object => "object"

end ColumnShape

namespace Column

def json (column : Column) : Json :=
  .obj [("name", .str column.name), ("path", .str column.path),
    ("projection", .str column.shape.name)]

def paths (columns : List Column) : Json := .ofStrings (columns.map Column.path)

end Column

namespace Catalog

/-- The field of a facet and the variant that it counts. -/
def facetSource (catalog : Catalog) (name : String) : Except QueryFault (Field × Variant) :=
  match catalog.lookup? name with
  | none => .error (.unknownField name)
  | some field =>
    match field.verbatimVariant? with
    | some variant =>
      if field.isFacetable then .ok (field, variant) else .error (.notFacetable field.name)
    | none => .error (.notFacetable field.name)

/-- Resolves facets in order. A field that was seen before adds nothing. -/
def facetsFrom (catalog : Catalog) (defaultSize maxSize : Nat) (seen : List String) :
    List FacetRequest → List Facet × List QueryFault
  | [] => ([], [])
  | request :: rest =>
    match catalog.facetSource request.field with
    | .error fault =>
      let (facets, faults) := facetsFrom catalog defaultSize maxSize seen rest
      (facets, fault :: faults)
    | .ok (field, variant) =>
      if seen.contains field.name then facetsFrom catalog defaultSize maxSize seen rest
      else
        let (facets, faults) := facetsFrom catalog defaultSize maxSize (field.name :: seen) rest
        (⟨field.name, variant.path, clampSize maxSize (request.size.getD defaultSize)⟩ :: facets,
          faults)

def facets (catalog : Catalog) (defaultSize maxSize : Nat) (requests : List FacetRequest) :
    List Facet × List QueryFault :=
  catalog.facetsFrom defaultSize maxSize [] requests

def columnOf (field : Field) : Column :=
  ⟨field.name, field.name, if field.isObject then .object else .scalar⟩

def columnsFrom (catalog : Catalog) (seen : List String) :
    List String → List Column × List QueryFault
  | [] => ([], [])
  | name :: rest =>
    match catalog.lookup? name with
    | none =>
      let (columns, faults) := columnsFrom catalog seen rest
      (columns, .unknownField name :: faults)
    | some field =>
      if seen.contains field.name then columnsFrom catalog seen rest
      else
        let (columns, faults) := columnsFrom catalog (field.name :: seen) rest
        (columnOf field :: columns, faults)

def columns (catalog : Catalog) (names : List String) : List Column × List QueryFault :=
  catalog.columnsFrom [] (if names.isEmpty then catalog.defaultColumns else names)

end Catalog

namespace Source

structure FacetParts where
  field : Option String := none
  size : Option (Option Nat) := none

def facetSlots : List (Slot FacetParts) :=
  [slot "field" (·.field) (fun parts x => { parts with field := some x }) decodeString,
    slot "size" (·.size) (fun parts x => { parts with size := some x })
      (decodeOptional decodeNat64)]

/-- A facet is written as a name, or as an object of a name and a size. -/
def decodeFacet : Decoder FacetRequest := fun source =>
  if source.json?.isNone then .error .malformed
  else
    match source with
    | str (some field) => .ok { field }
    | obj .. => decodeRecord facetSlots 2 {}
        (fun parts => parts.field.map fun field => ⟨field, parts.size.getD none⟩) source
    | _ => .error .mismatched

end Source

end ReportSearch
