import ReportSearch.Rule.Basic
import ReportSearch.Rule.Fault

/-!
# Query trees

What a set of rules asks for, bound to variants of fields but not yet in the terms of a search
index: leaves that test one variant, and their combinations.
-/

set_option autoImplicit false

namespace ReportSearch

structure Bounds where
  gt : Option Scalar := none
  gte : Option Scalar := none
  lt : Option Scalar := none
  lte : Option Scalar := none
  deriving DecidableEq, Repr

/-- What a leaf tests; values are as the variant stores them. -/
inductive Condition where
  /-- The value itself. -/
  | term (value : Scalar)
  /-- Any of the values. -/
  | terms (values : List Scalar)
  /-- All words of a text. -/
  | allWords (text : String)
  /-- The words of a text in a row. -/
  | phrase (text : String)
  | startsWith (text : String)
  | matchesPattern (pattern : String)
  | range (bounds : Bounds)
  | isPresent
  deriving DecidableEq, Repr

/-- A test of one variant. -/
structure Leaf where
  field : String
  path : String
  condition : Condition
  deriving DecidableEq, Repr

inductive QueryTree where
  | everything
  | all (parts : List QueryTree)
  | any (parts : List QueryTree)
  | not (part : QueryTree)
  | leaf (leaf : Leaf)
  deriving Repr

namespace Bounds

/-- The bounds that are there, by name. -/
def entries (bounds : Bounds) : List (String × Scalar) :=
  [("gt", bounds.gt), ("gte", bounds.gte), ("lt", bounds.lt), ("lte", bounds.lte)].filterMap
    fun (name, bound) => bound.map fun value => (name, value)

def json (bounds : Bounds) : List (String × Json) :=
  bounds.entries.map fun (name, value) => (name, value.json)

end Bounds

namespace Condition

def json : Condition → Json
  | term value => .obj [("type", .str "term"), ("value", value.json)]
  | terms values => .obj [("type", .str "terms"), ("values", .arr (values.map Scalar.json))]
  | allWords text => .obj [("type", .str "match"), ("text", .str text)]
  | phrase text => .obj [("type", .str "phrase"), ("text", .str text)]
  | startsWith text => .obj [("type", .str "prefix"), ("prefix", .str text)]
  | matchesPattern pattern => .obj [("type", .str "regexp"), ("pattern", .str pattern)]
  | range bounds => .obj (("type", .str "range") :: bounds.json)
  | isPresent => .obj [("type", .str "exists")]

end Condition

namespace QueryTree

mutual

def json : QueryTree → Json
  | everything => .str "match_all"
  | all parts => .obj [("and", .arr (jsonList parts))]
  | any parts => .obj [("or", .arr (jsonList parts))]
  | not part => .obj [("not", json part)]
  | leaf l => .obj [("predicate", .obj [("field", .str l.field), ("path", .str l.path),
      ("condition", l.condition.json)])]

def jsonList : List QueryTree → List Json
  | [] => []
  | part :: rest => json part :: jsonList rest

end

mutual

def leaves : QueryTree → List Leaf
  | everything => []
  | all parts => leavesOf parts
  | any parts => leavesOf parts
  | not part => leaves part
  | leaf l => [l]

def leavesOf : List QueryTree → List Leaf
  | [] => []
  | part :: rest => leaves part ++ leavesOf rest

end

def isEverything : QueryTree → Bool
  | everything => true
  | _ => false

def leafOn (field : Field) (variant : Variant) (condition : Condition) : QueryTree :=
  leaf ⟨field.name, variant.path, condition⟩

end QueryTree

end ReportSearch
