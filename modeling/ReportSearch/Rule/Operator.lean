import ReportSearch.Catalog.Field

/-!
# Rule operators

Ten operators, the names and signs that stand for them, and the types of fields that each may be
used on.
-/

set_option autoImplicit false

namespace ReportSearch

inductive Operator where
  | equals
  | contains
  | startsWith
  | greaterThan
  | greaterThanOrEqual
  | lessThan
  | lessThanOrEqual
  | isIn
  | isPresent
  | regex
  deriving DecidableEq, Repr

namespace Operator

def all : List Operator :=
  [equals, contains, startsWith, greaterThan, greaterThanOrEqual, lessThan, lessThanOrEqual, isIn,
    isPresent, regex]

def name : Operator → String
  | equals => "equals"
  | contains => "contains"
  | startsWith => "startsWith"
  | greaterThan => "greaterThan"
  | greaterThanOrEqual => "greaterThanOrEqual"
  | lessThan => "lessThan"
  | lessThanOrEqual => "lessThanOrEqual"
  | isIn => "in"
  | isPresent => "exists"
  | regex => "regex"

/-- The other spellings of an operator. -/
def signs : Operator → List String
  | equals => ["=", "has"]
  | contains => ["~"]
  | startsWith => ["^"]
  | greaterThan => [">"]
  | greaterThanOrEqual => [">="]
  | lessThan => ["<"]
  | lessThanOrEqual => ["<="]
  | isIn => []
  | isPresent => []
  | regex => ["@"]

/-- The operator that a text names; blanks around it do not matter. -/
def ofText? (text : String) : Option Operator :=
  all.find? fun op => (op.name :: op.signs).contains (Text.trim text)

def unknownMessage (text : String) : String := "unknown operator '" ++ Text.trim text ++ "'"

def isRange : Operator → Bool
  | greaterThan | greaterThanOrEqual | lessThan | lessThanOrEqual => true
  | _ => false

/-- Whether the operator asks about whole values. -/
def isExactMatch : Operator → Bool
  | equals | isIn | isPresent => true
  | _ => false

def setsLowerBound : Operator → Bool
  | greaterThan | greaterThanOrEqual | equals => true
  | _ => false

def setsUpperBound : Operator → Bool
  | lessThan | lessThanOrEqual | equals => true
  | _ => false

def isLegalFor (op : Operator) : FieldType → Bool
  | .string | .keyword =>
    match op with
    | equals | isIn | contains | startsWith | regex | isPresent => true
    | _ => false
  | .boolean =>
    match op with
    | equals | isPresent => true
    | _ => false
  | .integer | .long | .double => op.isRange || op.isExactMatch
  | .date =>
    match op with
    | equals | isPresent => true
    | op => op.isRange
  | .nestedObject =>
    match op with
    | isPresent => true
    | _ => false

def legalFor (type : FieldType) : List Operator := all.filter (·.isLegalFor type)

end Operator

end ReportSearch
