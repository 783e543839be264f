import ReportSearch.Rule.Operator
import ReportSearch.Rule.Scalar

/-!
# Rules

A rule as it is submitted names a field, an operator and a value, and may be negated. A checked rule
has a field of the catalog, an operator that is legal for it, and an operand.
-/

set_option autoImplicit false

namespace ReportSearch

structure Rule where
  field : String
  operator : String
  value : Json := .null
  isNegated : Bool := false

namespace Rule

def json (rule : Rule) : Json :=
  .obj [("field", .str rule.field), ("operator", .str rule.operator), ("value", rule.value),
    ("negate", .bool rule.isNegated)]

end Rule

structure CheckedRule where
  field : Field
  operator : Operator
  operand : Operand
  isNegated : Bool
  deriving DecidableEq, Repr

namespace Source

structure RuleParts where
  field : Option String := none
  operator : Option String := none
  value : Option Json := none
  isNegated : Option Bool := none

def ruleSlots : List (Slot RuleParts) :=
  [slot "field" (·.field) (fun parts x => { parts with field := some x }) decodeString,
    slot "operator" (·.operator) (fun parts x => { parts with operator := some x }) decodeString,
    slot "value" (·.value) (fun parts x => { parts with value := some x }) decodeJson,
    slot "negate" (·.isNegated) (fun parts x => { parts with isNegated := some x }) decodeBool]

def finishRule (parts : RuleParts) : Option Rule := do
  return { field := ← parts.field, operator := ← parts.operator
           value := parts.value.getD .null, isNegated := parts.isNegated.getD false }

def decodeRule : Decoder Rule := decodeRecord ruleSlots 2 {} finishRule

end Source

end ReportSearch
