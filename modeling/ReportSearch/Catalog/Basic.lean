import ReportSearch.Catalog.CrashReports

/-!
# Catalogs

A catalog is one version of the searchable fields, in ascending order of their names, which are
distinct. The default columns keep the order in which the mapping lists them.
-/

set_option autoImplicit false

namespace ReportSearch

structure Catalog where
  version : Nat
  tag : Option String
  /-- Ascending by name. -/
  fields : List Field
  defaultColumns : List String
  deriving DecidableEq, Repr

namespace Catalog

/-- Puts a field in its place among fields in order; one of its name gives way. -/
def insertField (field : Field) : List Field → List Field
  | [] => [field]
  | other :: rest =>
    if field.name < other.name then field :: other :: rest
    else if field.name = other.name then field :: rest
    else other :: insertField field rest

def sortFields (fields : List Field) : List Field :=
  fields.foldl (fun sorted field => insertField field sorted) []

def ofMapping (mapping : Mapping) (version : Nat) : Catalog :=
  { version, tag := mapping.versionTag, fields := sortFields mapping.fields
    defaultColumns := mapping.defaultColumns }

def lookup? (catalog : Catalog) (name : String) : Option Field :=
  catalog.fields.find? (·.name = name)

def size (catalog : Catalog) : Nat := catalog.fields.length

def names (catalog : Catalog) : List String := catalog.fields.map Field.name

def facetableNames (catalog : Catalog) : List String :=
  (catalog.fields.filter Field.isFacetable).map Field.name

/-- The first version of the catalog of crash reports. -/
def ofCrashReports : Except CatalogFault Catalog :=
  (Mapping.ofJson CrashReports.mapping).map (ofMapping · 1)

end Catalog

end ReportSearch
