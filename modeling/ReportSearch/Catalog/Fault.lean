import ReportSearch.Catalog.Field

/-!
# Faults of a mapping

Why a mapping gives no catalog of fields: its text cannot be read or is not JSON, its outline is
wrong, or one of its fields is.
-/

set_option autoImplicit false

namespace ReportSearch

inductive OutlineFault where
  | notObject
  | mappingsNotObject
  | noProperties
  | noFields
  | columnNotText
  | columnsNotList
  deriving DecidableEq, Repr

namespace OutlineFault

def message : OutlineFault → String
  | notObject => "mapping must be a JSON object"
  | mappingsNotObject => "'mappings' must be an object"
  | noProperties => "missing 'properties' object"
  | noFields => "mapping declares no fields"
  | columnNotText => "'_meta.default_columns' must contain strings"
  | columnsNotList => "'_meta.default_columns' must be an array"

end OutlineFault

inductive DeclarationFault where
  | badName
  | notObject
  | typeNotText
  | missingType
  | fieldsNotObject
  | propertiesNotObject
  | multiFieldWithoutFields
  | multiFieldWithoutRoot (leaf : String)
  | multiFieldRootWithoutType
  | variantNotObject (variantName : String)
  | variantWithoutType (variantName : String)
  | variantIsTree (variantName : String)
  | notIndexed
  | unsupportedType (type : String)
  | formatNotText
  | badFormat (fault : DateFormatFault)
  | formatWithoutDate
  | dynamicNotFlag
  /-- The text of the null value does not fit the type. -/
  | nullValueMisfit (value : String) (type : FieldType)
  | declaredTwice
  deriving DecidableEq, Repr

namespace DeclarationFault

def message : DeclarationFault → String
  | badName => "field names must be non-empty and contain no whitespace"
  | notObject => "entry must be an object"
  | typeNotText => "'type' must be a string"
  | missingType => "missing 'type'"
  | fieldsNotObject => "'fields' must be an object"
  | propertiesNotObject => "'properties' must be an object"
  | multiFieldWithoutFields => "multi_field requires a 'fields' object"
  | multiFieldWithoutRoot leaf => "multi_field has no '" ++ leaf ++ "' root variant"
  | multiFieldRootWithoutType => "multi_field root variant needs a 'type'"
  | variantNotObject name => "variant '" ++ name ++ "' must be an object"
  | variantWithoutType name => "variant '" ++ name ++ "' needs a 'type'"
  | variantIsTree name => "variant '" ++ name ++ "' cannot be an object"
  | notIndexed => "field is not indexed"
  | unsupportedType type => "unsupported type '" ++ type ++ "'"
  | formatNotText => "'format' must be a string"
  | badFormat fault => fault.message
  | formatWithoutDate => "'format' is only valid on date fields"
  | dynamicNotFlag => "'dynamic' must be a boolean or string"
  | nullValueMisfit value type => "null_value " ++ value ++ " does not fit type " ++ type.name
  | declaredTwice => "declared more than once"

end DeclarationFault

inductive CatalogFault where
  /-- The text could not be read from where it is kept. -/
  | unreadable
  | notJson
  | outline (fault : OutlineFault)
  | field (name : String) (fault : DeclarationFault)
  | unknownDefaultColumn (name : String)
  deriving DecidableEq, Repr

namespace CatalogFault

def kind : CatalogFault → String
  | unreadable => "Read"
  | notJson => "Parse"
  | outline _ => "InvalidStructure"
  | field .. => "InvalidField"
  | unknownDefaultColumn _ => "UnknownDefaultColumn"

def message : CatalogFault → String
  | unreadable => "Failed to read schema source"
  | notJson => "Schema source is not valid JSON"
  | outline fault => "Invalid mapping structure: " ++ fault.message
  | field name fault => "Invalid definition for field '" ++ name ++ "': " ++ fault.message
  | unknownDefaultColumn name => "Default column '" ++ name ++ "' is not a declared field"

end CatalogFault

end ReportSearch
