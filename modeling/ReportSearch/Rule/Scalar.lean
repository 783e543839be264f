import ReportSearch.Catalog.Field

/-!
# Checked values

The values that a checked rule carries: scalars that fit the type of its field, alone or in a list,
a pattern, or nothing.
-/

set_option autoImplicit false

namespace ReportSearch

inductive Scalar where
  | text (value : String)
  | integer (value : Int)
  | double (value : Double)
  | boolean (value : Bool)
  | date (value : Instant)
  deriving DecidableEq, Repr

namespace Scalar

def json : Scalar → Json
  | text s => .str s
  | integer i => .ofInt i
  | double x => .ofDouble x
  | boolean b => .bool b
  | date t => .str t.text

def instant? : Scalar → Option Instant
  | date t => some t
  | _ => none

def ofNullValue : NullValue → Scalar
  | .boolean b => boolean b
  | .integer i => integer i
  | .double x => double x
  | .text s => text s

/-- A scalar of the type that the JSON value has itself. -/
def ofJson? : Json → Option Scalar
  | .str s => some (text s)
  | .bool b => some (boolean b)
  | .num n =>
    match n.int64? with
    | some i => some (integer i)
    | none => some (double n.toDouble)
  | _ => none

end Scalar

/-- What a rule compares its field with. -/
inductive Operand where
  | absent
  | single (value : Scalar)
  | list (values : List Scalar)
  | pattern (text : String)
  deriving DecidableEq, Repr

namespace Operand

def json : Operand → Json
  | absent => .null
  | single value => value.json
  | list values => .arr (values.map Scalar.json)
  | pattern text => .str text

def single? : Operand → Option Scalar
  | single value => some value
  | _ => none

end Operand

end ReportSearch
