import ReportSearch.Rule.Operator

/-!
# Faults of a query

What can be wrong with one rule, one facet or one column of a request, and how it is worded.
-/

set_option autoImplicit false

namespace ReportSearch

inductive ValueFault where
  | required
  | notSingle
  | notList
  | emptyList
  | entryNotScalar
  | patternNotText
  | patternEmpty
  | patternInvalid
  /-- The pattern has an escape that patterns of the search index do not know. -/
  | patternEscape (c : Char)
  | patternAnchor
  | patternGroup
  | patternLazy
  | blankTerm (op : Operator)
  deriving DecidableEq, Repr

namespace ValueFault

def message : ValueFault → String
  | required => "a value is required"
  | notSingle => "expected a single value"
  | notList => "'in' expects a list of values"
  | emptyList => "'in' needs at least one value"
  | entryNotScalar => "list entries must be scalar values"
  | patternNotText => "regular expression must be a string"
  | patternEmpty => "regular expression is empty"
  | patternInvalid => "invalid regular expression"
  | patternEscape c => "escape sequence '\\" ++ c.toString ++ "' is not supported"
  | patternAnchor => "anchors are not supported; patterns always match the whole value"
  | patternGroup => "inline flags and special groups '(?...)' are not supported"
  | patternLazy => "lazy quantifiers are not supported"
  | blankTerm op => "'" ++ op.name ++ "' needs a non-empty search term"

end ValueFault

inductive QueryFault where
  | unknownField (field : String)
  | unknownOperator (field operator : String)
  | illegalOperator (field : String) (operator : Operator) (type : FieldType)
  /-- The value's text does not fit what is expected. -/
  | typeMismatch (field value expected : String)
  | malformedValue (field : String) (fault : ValueFault)
  | unsupportedOperator (field : String) (operator : Operator)
  | notFacetable (field : String)
  deriving DecidableEq, Repr

namespace QueryFault

def kind : QueryFault → String
  | unknownField _ => "UnknownField"
  | unknownOperator .. => "IllegalOperator"
  | illegalOperator .. => "IllegalOperator"
  | typeMismatch .. => "TypeMismatch"
  | malformedValue .. => "MalformedValue"
  | unsupportedOperator .. => "UnsupportedOperator"
  | notFacetable _ => "NotFacetable"

def field : QueryFault → String
  | unknownField field => field
  | unknownOperator field _ => field
  | illegalOperator field _ _ => field
  | typeMismatch field _ _ => field
  | malformedValue field _ => field
  | unsupportedOperator field _ => field
  | notFacetable field => field

def notAllowed (field operator reason : String) : String :=
  "Operator '" ++ operator ++ "' is not allowed on field '" ++ field ++ "' (" ++ reason ++ ")"

def message : QueryFault → String
  | unknownField field => "Unknown field '" ++ field ++ "'"
  | unknownOperator field operator => notAllowed field operator "unknown operator"
  | illegalOperator field operator type =>
    notAllowed field operator.name ("not valid for " ++ type.name ++ " fields")
  | typeMismatch field value expected =>
    "Value " ++ value ++ " for field '" ++ field ++ "' is not a valid " ++ expected
  | malformedValue field fault => "Malformed value for field '" ++ field ++ "': " ++ fault.message
  | unsupportedOperator field operator =>
    "Operator '" ++ operator.name ++ "' cannot be applied to any indexing variant of field '" ++
      field ++ "'"
  | notFacetable field => "Field '" ++ field ++ "' cannot be used as a facet"

def json (fault : QueryFault) : Json :=
  .obj [("kind", .str fault.kind), ("field", .str fault.field), ("message", .str fault.message)]

/-- The results and the faults of a list of attempts, each in order. -/
def collect {α : Type} : List (Except QueryFault α) → List α × List QueryFault
  | [] => ([], [])
  | .ok value :: rest => (value :: (collect rest).1, (collect rest).2)
  | .error fault :: rest => ((collect rest).1, fault :: (collect rest).2)

def jsonList (faults : List QueryFault) : Json := .arr (faults.map json)

end QueryFault

end ReportSearch
