import ReportSearch.Json.Printer
import ReportSearch.Query.Tree

/-!
# From rules to a query tree

Each checked rule is bound to the variant of its field that can answer it, and its operand is put
into the form in which that variant stores values. Rules hold together; a negated rule is the
negation of the rule itself.
-/

set_option autoImplicit false

namespace ReportSearch

namespace Scalar

/-- The text of a value where words are compared. -/
def searchText : Scalar → String
  | text s => s
  | date t => t.text
  | other => other.json.compact

end Scalar

namespace Field

/-- The first variant that keeps values as they are, or the root where there is none. -/
def comparedVariant (field : Field) : Variant := field.verbatimVariant?.getD field.rootVariant

def exactVariant? (field : Field) : Option Variant := field.variants.find? (·.kind = .exact)

def numericVariant? (field : Field) : Option Variant := field.variants.find? (·.kind = .numeric)

/-- An instant in a format, if reading it back gives the instant again. -/
def losslessForm? (format : DateFormat) (t : Instant) : Option Json :=
  let written := format.write t
  let text := match written with
    | .str s => s
    | other => other.compact
  if format.read? text = some t then some written else none

/-- The text or number that stands for an instant: in the first format that keeps it, or else in
the first format. -/
def storedForm? (field : Field) (t : Instant) : Option Json :=
  (field.dateFormats.findSome? (losslessForm? · t)) <|> field.dateFormats.head?.map (·.write t)

def storedDate (field : Field) (variant : Variant) (t : Instant) : Scalar :=
  match variant.kind with
  | .epoch unit => .integer (unit.number t)
  | _ => ((field.storedForm? t).bind Scalar.ofJson?).getD (.date t)

/-- The variant that compares values by size, and a value as it stores it. Dates are compared as
numbers where the field has them. -/
def rangeOperand? (field : Field) (value : Scalar) : Option (Variant × Scalar) :=
  match value with
  | .date t =>
    (field.epochVariant? <|> field.dateVariant?).map fun variant =>
      (variant, field.storedDate variant t)
  | value => field.numericVariant?.map fun variant => (variant, value)

end Field

namespace QueryTree

/-- A field equal to a value: its words in a row where no variant keeps the value itself. -/
def equality? (field : Field) (value : Scalar) : Option QueryTree :=
  match value with
  | .date t =>
    (field.dateVariant? <|> field.epochVariant?).map fun variant =>
      leafOn field variant (.term (field.storedDate variant t))
  | value =>
    let variant := field.comparedVariant
    some (leafOn field variant
      (if variant.kind = .analyzed then .phrase value.searchText else .term value))

def membership (field : Field) (values : List Scalar) : QueryTree :=
  let variant := field.comparedVariant
  if variant.kind = .analyzed then
    any (values.map fun value => leafOn field variant (.phrase value.searchText))
  else leafOn field variant (.terms values)

def boundsFor (op : Operator) (bound : Scalar) : Bounds :=
  match op with
  | .greaterThan => { gt := some bound }
  | .greaterThanOrEqual => { gte := some bound }
  | .lessThan => { lt := some bound }
  | _ => { lte := some bound }

/-- What a rule asks before it is negated; nothing when no variant can answer it. -/
def positive? (rule : CheckedRule) : Option QueryTree :=
  let field := rule.field
  match rule.operator, rule.operand with
  | .isPresent, _ => some (leafOn field field.comparedVariant .isPresent)
  | .equals, .single value => equality? field value
  | .isIn, .list values => some (membership field values)
  | .contains, .single value =>
    field.analyzedVariant?.map fun variant => leafOn field variant (.allWords value.searchText)
  | .startsWith, .single value =>
    field.exactVariant?.map fun variant => leafOn field variant (.startsWith value.searchText)
  | .regex, .pattern pattern =>
    field.exactVariant?.map fun variant => leafOn field variant (.matchesPattern pattern)
  | op, .single value =>
    if op.isRange then
      (field.rangeOperand? value).map fun (variant, bound) =>
        leafOn field variant (.range (boundsFor op bound))
    else none
  | _, _ => none

def ofRule (rule : CheckedRule) : Except QueryFault QueryTree :=
  match positive? rule with
  | some tree => .ok (if rule.isNegated then not tree else tree)
  | none => .error (.unsupportedOperator rule.field.name rule.operator)

def conjunction : List QueryTree → QueryTree
  | [] => everything
  | [tree] => tree
  | trees => all trees

/-- The tree of all rules, or the faults of those that no variant can answer. -/
def ofRules (rules : List CheckedRule) : Except (List QueryFault) QueryTree :=
  let (trees, faults) := QueryFault.collect (rules.map ofRule)
  if faults.isEmpty then .ok (conjunction trees) else .error faults

/-- A date field within bounds that belong to the range; nothing without bounds, or when no variant
compares dates. -/
def dateWindow? (field : Field) (lower upper : Option Instant) : Option QueryTree := do
  let probe ← lower <|> upper
  let (variant, _) ← field.rangeOperand? (.date probe)
  let bound (t : Option Instant) := t.map fun t => field.storedDate variant t
  return leafOn field variant (.range { gte := bound lower, lte := bound upper })

end QueryTree

end ReportSearch
