import ReportSearch.Catalog.Basic
import ReportSearch.Number.Integer
import ReportSearch.Pattern.Dialect
import ReportSearch.Rule.Basic

/-!
# Checking rules

A submitted rule is accepted as a whole or refused with one fault: its field has to be known, its
operator has to be legal for the type of the field, and its value has to fit the operator and the
type.
-/

set_option autoImplicit false

namespace ReportSearch

namespace Scalar

def trueWords : List String := ["true", "1", "yes", "on"]

def falseWords : List String := ["false", "0", "no", "off"]

/-- A truth value: itself, one or zero, or a word for it in either case. -/
def readBool? : Json → Option Bool
  | .bool b => some b
  | .num n =>
    match n.int64? with
    | some 1 => some true
    | some 0 => some false
    | _ => none
  | .str s =>
    let word := String.ofList (Text.lowerAscii (Text.trim s).toList)
    if trueWords.contains word then some true
    else if falseWords.contains word then some false
    else none
  | _ => none

def readInteger? : Json → Option Int
  | .num n => n.int64?
  | .str s => Text.readInt64? (Text.trim s)
  | _ => none

def readDouble? (value : Json) : Option Double :=
  let found := match value with
    | .num n => some n.toDouble
    | .str s => Double.ofText? (Text.trim s)
    | _ => none
  found.filter Double.isFinite

/-- An instant in the first of the formats that reads it. -/
def readDate? (formats : List DateFormat) (value : Json) : Option Instant :=
  match value with
  | .str s => formats.findSome? (·.read? s)
  | .num n => formats.findSome? (·.read? n.text)
  | _ => none

def isInt32 (i : Int) : Bool := -0x80000000 ≤ i && i < 0x80000000

def readText? : Json → Option String
  | .str s => some s
  | .num n => some n.text
  | .bool b => some (toString b)
  | _ => none

/-- What a value for a field should have been. -/
def misfit (field : Field) (value : Json) (expected : String) : QueryFault :=
  .typeMismatch field.name value.compact expected

def ofField (field : Field) (value : Json) : Except QueryFault Scalar :=
  match field.type with
  | .string | .keyword =>
    match readText? value with
    | some s => .ok (.text s)
    | none => .error (misfit field value "string")
  | .boolean =>
    match readBool? value with
    | some b => .ok (.boolean b)
    | none => .error (misfit field value "boolean")
  | .integer =>
    match readInteger? value with
    | some i => if isInt32 i then .ok (.integer i) else .error (misfit field value "32-bit integer")
    | none => .error (misfit field value "integer")
  | .long =>
    match readInteger? value with
    | some i => .ok (.integer i)
    | none => .error (misfit field value "long")
  | .double =>
    match readDouble? value with
    | some x => .ok (.double x)
    | none => .error (misfit field value "double")
  | .date =>
    match readDate? field.dateFormats value with
    | some t => .ok (.date t)
    | none =>
      let formats := "||".intercalate (field.dateFormats.map DateFormat.pattern)
      .error (misfit field value ("date (" ++ formats ++ ")"))
  | .nestedObject => .error (misfit field value "scalar field")

/-- One value; a missing one is taken from the field, if it has one for that. -/
def single (field : Field) (value : Json) : Except QueryFault Scalar :=
  match value with
  | .null =>
    match field.nullValue with
    | some value => .ok (ofNullValue value)
    | none => .error (.malformedValue field.name .required)
  | .arr _ => .error (.malformedValue field.name .notSingle)
  | .obj _ => .error (.malformedValue field.name .notSingle)
  | value => ofField field value

def listEntry (field : Field) (value : Json) : Except QueryFault Scalar :=
  match value with
  | .null => .error (.malformedValue field.name .entryNotScalar)
  | .arr _ => .error (.malformedValue field.name .entryNotScalar)
  | .obj _ => .error (.malformedValue field.name .entryNotScalar)
  | value => ofField field value

def listOf (field : Field) (value : Json) : Except QueryFault (List Scalar) :=
  match value with
  | .arr [] => .error (.malformedValue field.name .emptyList)
  | .arr items => items.mapM (listEntry field)
  | _ => .error (.malformedValue field.name .notList)

def isBlankText : Scalar → Bool
  | .text s => (Text.trim s).isEmpty
  | _ => false

end Scalar

namespace Operand

/-- A pattern that the reader accepts and the search index knows. -/
def checkPattern (value : Json) : Except ValueFault String :=
  match value with
  | .str text =>
    if text.isEmpty then .error .patternEmpty
    else if !Pattern.isExpression text.toList then .error .patternInvalid
    else match Pattern.unsupported? text with
      | some fault => .error fault
      | none => .ok text
  | _ => .error .patternNotText

/-- The operand that an operator takes from a value. -/
def ofValue (field : Field) (op : Operator) (value : Json) : Except QueryFault Operand :=
  match op with
  | .isPresent => .ok .absent
  | .isIn => (Scalar.listOf field value).map .list
  | .regex =>
    match checkPattern value with
    | .ok text => .ok (.pattern text)
    | .error fault => .error (.malformedValue field.name fault)
  | .contains | .startsWith =>
    match Scalar.single field value with
    | .ok scalar =>
      if scalar.isBlankText then .error (.malformedValue field.name (.blankTerm op))
      else .ok (.single scalar)
    | .error fault => .error fault
  | _ => (Scalar.single field value).map .single

end Operand

namespace Rule

def check (catalog : Catalog) (rule : Rule) : Except QueryFault CheckedRule :=
  match catalog.lookup? rule.field with
  | none => .error (.unknownField rule.field)
  | some field =>
    match Operator.ofText? rule.operator with
    | none => .error (.unknownOperator field.name rule.operator)
    | some op =>
      if op.isLegalFor field.type then
        (Operand.ofValue field op rule.value).map fun operand =>
          { field, operator := op, operand, isNegated := rule.isNegated }
      else .error (.illegalOperator field.name op field.type)

/-- The rules that are accepted, in order, and the faults of the others. -/
def checkAll (catalog : Catalog) (rules : List Rule) : List CheckedRule × List QueryFault :=
  QueryFault.collect (rules.map (check catalog))

end Rule

end ReportSearch
