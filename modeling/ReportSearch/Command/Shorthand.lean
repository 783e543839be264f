import ReportSearch.Number.Integer
import ReportSearch.Search.Request

/-!
# Shorthand of rules and facets

On a command line a rule is a field, an operator and perhaps a value, with colons between them; an
exclamation mark before the operator negates it, and the operator `in` takes values with commas
between them. A facet is a field, perhaps with an equals sign and a size.
-/

set_option autoImplicit false

namespace ReportSearch

open Text

inductive ShorthandFault where
  | rule (text : String)
  | facetSize (text : String)
  deriving DecidableEq, Repr

namespace ShorthandFault

def message : ShorthandFault → String
  | rule text => "rule '" ++ text ++ "' must look like FIELD:OPERATOR[:VALUE]"
  | facetSize text => "facet '" ++ text ++ "' has an invalid size"

end ShorthandFault

namespace Rule

/-- The parts of a rule; the value may hold colons. -/
def cutShorthand? (text : List Char) : Option (List Char × List Char × Option (List Char)) :=
  match cutAt? ':' text with
  | none => none
  | some (field, rest) =>
    let (operator, value) := match cutAt? ':' rest with
      | some (operator, value) => (operator, some value)
      | none => (rest, none)
    if field.isEmpty || operator.isEmpty then none else some (field, operator, value)

/-- Whether an operator is negated, and the operator itself. -/
def cutNegation : List Char → Bool × List Char
  | '!' :: operator => (true, operator)
  | operator => (false, operator)

def shorthandValue (operator : String) : Option (List Char) → Json
  | none => .null
  | some value =>
    if Operator.ofText? operator = some .isIn then
      .ofStrings ((splitOnChar ',' value).map fun item => String.ofList (trimChars item))
    else .str (String.ofList value)

def ofShorthand (text : String) : Except ShorthandFault Rule :=
  match cutShorthand? text.toList with
  | none => .error (.rule text)
  | some (field, operator, value) =>
    let (isNegated, operator) := cutNegation operator
    let operator := String.ofList operator
    .ok { field := String.ofList field, operator, value := shorthandValue operator value, isNegated }

end Rule

namespace FacetRequest

def ofShorthand (text : String) : Except ShorthandFault FacetRequest :=
  match cutAt? '=' text.toList with
  | none => .ok { field := text }
  | some (field, size) =>
    match readNat64? (String.ofList size) with
    | some size => .ok { field := String.ofList field, size := some size }
    | none => .error (.facetSize text)

end FacetRequest

end ReportSearch
