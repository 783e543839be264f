import ReportSearch.Query.Clause

/-!
# Outlines of queries

A clause of the search index tells of a query tree all but the names of its fields and the types of
its values: that much is its outline. It is read off the clause by the keys alone, and no path and
no value can be taken for one of them, since the keys that are looked at never come from either.
-/

set_option autoImplicit false

namespace ReportSearch

/-- What a leaf tests, with its values as JSON. -/
inductive LeafTest where
  | term (value : Json)
  | terms (values : List Json)
  | allWords (text : String)
  | phrase (text : String)
  | startsWith (text : String)
  | matchesPattern (pattern : String)
  | range (gt gte lt lte : Option Json)
  | isPresent
  deriving Repr

/-- The kind of a leaf: how many values it has and in which places, whatever they are. -/
inductive LeafKind where
  | term
  | terms (count : Nat)
  | allWords
  | phrase
  | startsWith
  | matchesPattern
  | range (gt gte lt lte : Bool)
  | isPresent
  deriving DecidableEq, Repr

/-- A query tree whose leaves have a path and some content. -/
inductive Outline (α : Type) where
  | everything
  | all (parts : List (Outline α))
  | any (parts : List (Outline α))
  | not (part : Outline α)
  | leaf (path : String) (content : α)
  deriving Repr

def LeafTest.kind : LeafTest → LeafKind
  | term _ => .term
  | terms values => .terms values.length
  | allWords _ => .allWords
  | phrase _ => .phrase
  | startsWith _ => .startsWith
  | matchesPattern _ => .matchesPattern
  | range gt gte lt lte => .range gt.isSome gte.isSome lt.isSome lte.isSome
  | isPresent => .isPresent

namespace Outline

variable {α β : Type}

mutual

def map (f : α → β) : Outline α → Outline β
  | everything => everything
  | all parts => all (mapAll f parts)
  | any parts => any (mapAll f parts)
  | not part => not (map f part)
  | leaf path content => leaf path (f content)

def mapAll (f : α → β) : List (Outline α) → List (Outline β)
  | [] => []
  | part :: rest => map f part :: mapAll f rest

end

end Outline

namespace Condition

/-- The condition with its scalars and its texts replaced. -/
def mapValues (onScalar : Scalar → Scalar) (onText : String → String) : Condition → Condition
  | term value => .term (onScalar value)
  | terms values => .terms (values.map onScalar)
  | allWords text => .allWords (onText text)
  | phrase text => .phrase (onText text)
  | startsWith text => .startsWith (onText text)
  | matchesPattern pattern => .matchesPattern (onText pattern)
  | range bounds =>
    .range ⟨bounds.gt.map onScalar, bounds.gte.map onScalar, bounds.lt.map onScalar,
      bounds.lte.map onScalar⟩
  | isPresent => .isPresent

def test : Condition → LeafTest
  | term value => .term value.json
  | terms values => .terms (values.map Scalar.json)
  | allWords text => .allWords text
  | phrase text => .phrase text
  | startsWith text => .startsWith text
  | matchesPattern pattern => .matchesPattern pattern
  | range bounds =>
    .range (bounds.gt.map Scalar.json) (bounds.gte.map Scalar.json) (bounds.lt.map Scalar.json)
      (bounds.lte.map Scalar.json)
  | isPresent => .isPresent

theorem kind_mapValues (onScalar : Scalar → Scalar) (onText : String → String)
    (condition : Condition) :
    (condition.mapValues onScalar onText).test.kind = condition.test.kind := by
  cases condition <;> simp [mapValues, test, LeafTest.kind]

end Condition

namespace QueryTree

mutual

def mapValues (onScalar : Scalar → Scalar) (onText : String → String) : QueryTree → QueryTree
  | everything => everything
  | all parts => all (mapValuesOf onScalar onText parts)
  | any parts => any (mapValuesOf onScalar onText parts)
  | not part => not (mapValues onScalar onText part)
  | leaf l => leaf { l with condition := l.condition.mapValues onScalar onText }

def mapValuesOf (onScalar : Scalar → Scalar) (onText : String → String) :
    List QueryTree → List QueryTree
  | [] => []
  | part :: rest => mapValues onScalar onText part :: mapValuesOf onScalar onText rest

end

mutual

def outline : QueryTree → Outline LeafTest
  | everything => .everything
  | all parts => .all (outlines parts)
  | any parts => .any (outlines parts)
  | not part => .not (outline part)
  | leaf l => .leaf l.path l.condition.test

def outlines : List QueryTree → List (Outline LeafTest)
  | [] => []
  | part :: rest => outline part :: outlines rest

end

variable (onScalar : Scalar → Scalar) (onText : String → String)

mutual

/-- Other values leave the tree its shape, the kinds of its leaves and their paths. -/
theorem map_kind_outline_mapValues (tree : QueryTree) :
    (tree.mapValues onScalar onText).outline.map LeafTest.kind =
      tree.outline.map LeafTest.kind := by
  cases tree with
  | everything => rfl
  | all parts =>
    rw [mapValues, outline, outline, Outline.map, Outline.map,
      mapAll_kind_outlines_mapValuesOf parts]
  | any parts =>
    rw [mapValues, outline, outline, Outline.map, Outline.map,
      mapAll_kind_outlines_mapValuesOf parts]
  | not part =>
    rw [mapValues, outline, outline, Outline.map, Outline.map, map_kind_outline_mapValues part]
  | leaf l =>
    rw [mapValues, outline, outline, Outline.map, Outline.map, Condition.kind_mapValues]

theorem mapAll_kind_outlines_mapValuesOf (parts : List QueryTree) :
    Outline.mapAll LeafTest.kind (outlines (mapValuesOf onScalar onText parts)) =
      Outline.mapAll LeafTest.kind (outlines parts) := by
  cases parts with
  | nil => rfl
  | cons part rest =>
    rw [mapValuesOf, outlines, outlines, Outline.mapAll, Outline.mapAll,
      map_kind_outline_mapValues part, mapAll_kind_outlines_mapValuesOf rest]

end

end QueryTree

namespace LeafTest

def clause (path : String) : LeafTest → Json
  | term value => .obj [("term", .obj [(path, value)])]
  | terms values => .obj [("terms", .obj [(path, .arr values)])]
  | allWords text =>
    .obj [("match", .obj [(path, .obj [("query", .str text), ("operator", .str "and")])])]
  | phrase text => .obj [("match_phrase", .obj [(path, .str text)])]
  | startsWith text => .obj [("prefix", .obj [(path, .str text)])]
  | matchesPattern pattern => .obj [("regexp", .obj [(path, .str pattern)])]
  | range gt gte lt lte =>
    .obj [("range", .obj [(path, .obj <|
      [("gt", gt), ("gte", gte), ("lt", lt), ("lte", lte)].filterMap
        fun (name, bound) => bound.map fun value => (name, value))])]
  | isPresent => .obj [("exists", .obj [("field", .str path)])]

theorem clause_test (path : String) (condition : Condition) :
    condition.test.clause path = condition.clause path := by
  cases condition with
  | range bounds =>
    obtain ⟨gt, gte, lt, lte⟩ := bounds
    cases gt <;> cases gte <;> cases lt <;> cases lte <;> rfl
  | _ => rfl

end LeafTest

namespace Outline

mutual

def clause : Outline LeafTest → Json
  | everything => .obj [("match_all", .obj [])]
  | all parts => QueryTree.boolClause [("must", .arr (clauses parts))]
  | any parts =>
    QueryTree.boolClause [("should", .arr (clauses parts)), ("minimum_should_match", .ofNat 1)]
  | not part => QueryTree.boolClause [("must_not", .arr [clause part])]
  | leaf path test => test.clause path

def clauses : List (Outline LeafTest) → List Json
  | [] => []
  | part :: rest => clause part :: clauses rest

end

mutual

/-- The clause of a tree has nothing but what its outline tells. -/
theorem clause_outline (tree : QueryTree) : clause tree.outline = tree.clause := by
  cases tree with
  | everything => rfl
  | all parts => rw [QueryTree.outline, clause, QueryTree.clause, clauses_outlines parts]
  | any parts => rw [QueryTree.outline, clause, QueryTree.clause, clauses_outlines parts]
  | not part => rw [QueryTree.outline, clause, QueryTree.clause, clause_outline part]
  | leaf l => exact LeafTest.clause_test l.path l.condition

theorem clauses_outlines (parts : List QueryTree) :
    clauses (QueryTree.outlines parts) = QueryTree.clauses parts := by
  cases parts with
  | nil => rfl
  | cons part rest =>
    rw [QueryTree.outlines, clauses, QueryTree.clauses, clause_outline part,
      clauses_outlines rest]

end

end Outline

namespace Json

def single? : Json → Option (String × Json)
  | obj [member] => some member
  | _ => none

end Json

namespace LeafTest

/-- A test of a path from a clause, by the key of the clause and what stands under it. -/
def ofMember? (key : String) (value : Json) : Option (String × LeafTest) :=
  if key = "exists" then
    ((value.get? "field").bind Json.text?).map fun path => (path, isPresent)
  else
    value.single?.bind fun (path, value) =>
      Option.map (fun test => (path, test)) <|
        if key = "term" then some (term value)
        else if key = "terms" then value.items?.map terms
        else if key = "match" then ((value.get? "query").bind Json.text?).map allWords
        else if key = "match_phrase" then value.text?.map phrase
        else if key = "prefix" then value.text?.map startsWith
        else if key = "regexp" then value.text?.map matchesPattern
        else if key = "range" then
          some (range (value.get? "gt") (value.get? "gte") (value.get? "lt") (value.get? "lte"))
        else none

theorem ofMember?_clause (path : String) (condition : Condition) :
    ∃ key parts, condition.clause path = .obj [(key, .obj parts)] ∧ key ≠ "match_all" ∧
      key ≠ "bool" ∧ ofMember? key (.obj parts) = some (path, condition.test) := by
  cases condition with
  | range bounds =>
    refine ⟨"range", _, rfl, by decide, by decide, ?_⟩
    obtain ⟨gt, gte, lt, lte⟩ := bounds
    cases gt <;> cases gte <;> cases lt <;> cases lte <;> rfl
  | _ => exact ⟨_, _, rfl, by decide, by decide, rfl⟩

end LeafTest

namespace Outline

/-- A boolean clause from its parts, of which exactly one says how the clauses are joined. -/
def join? (parts : List (String × Option (List (Outline LeafTest)))) : Option (Outline LeafTest) :=
  match parts.lookup "must", parts.lookup "should", parts.lookup "must_not" with
  | some clauses, none, none => clauses.map all
  | none, some clauses, none => clauses.map any
  | none, none, some (some [clause]) => some (not clause)
  | _, _, _ => none

mutual

def ofClause? : Json → Option (Outline LeafTest)
  | .obj [(key, .obj parts)] =>
    if key = "match_all" then some everything
    else if key = "bool" then join? (ofParts parts)
    else (LeafTest.ofMember? key (.obj parts)).map fun (path, test) => leaf path test
  | _ => none

def ofParts : List (String × Json) → List (String × Option (List (Outline LeafTest)))
  | [] => []
  | (part, .arr clauses) :: rest => (part, ofClauses? clauses) :: ofParts rest
  | (part, _) :: rest => (part, none) :: ofParts rest

def ofClauses? : List Json → Option (List (Outline LeafTest))
  | [] => some []
  | clause :: rest =>
    match ofClause? clause, ofClauses? rest with
    | some first, some others => some (first :: others)
    | _, _ => none

end

theorem ofClause?_boolClause (parts : List (String × Json)) :
    ofClause? (QueryTree.boolClause parts) = join? (ofParts parts) := by
  rw [QueryTree.boolClause, ofClause?]
  rfl

theorem ofClause?_leaf (path : String) (condition : Condition) :
    ofClause? (condition.clause path) = some (leaf path condition.test) := by
  obtain ⟨key, parts, hclause, hall, hbool, hmember⟩ := LeafTest.ofMember?_clause path condition
  rw [hclause, ofClause?, if_neg hall, if_neg hbool, hmember]
  rfl

/-- The two clauses of a boolean clause that has one under `must` and one under `filter`. -/
def filtered? (clause : Json) : Option (Json × Json) :=
  match (clause.get? "bool").bind (·.get? "filter"), (clause.get? "bool").bind (·.get? "must") with
  | some (.arr [window]), some (.arr [query]) => some (query, window)
  | _, _ => none

/-- The outline of a query, and of the window of time that it is filtered by where there is one. -/
def ofQuery? (clause : Json) : Option (Outline LeafTest × Option (Outline LeafTest)) :=
  match filtered? clause with
  | some (query, window) =>
    match ofClause? query, ofClause? window with
    | some query, some window => some (query, some window)
    | _, _ => none
  | none => (ofClause? clause).map fun query => (query, none)

end Outline

namespace QueryTree

open Outline (ofClause? ofClauses? ofClause?_boolClause filtered?)

mutual

theorem ofClause?_clause (tree : QueryTree) : ofClause? tree.clause = some tree.outline := by
  cases tree with
  | everything => rfl
  | all parts =>
    have hparts := ofClauses?_clauses parts
    rw [clause, ofClause?_boolClause, Outline.ofParts, hparts]
    rfl
  | any parts =>
    have hparts := ofClauses?_clauses parts
    rw [clause, ofClause?_boolClause, Outline.ofParts, hparts]
    rfl
  | not part =>
    -- A negation has one clause, and nothing else is read under its key.
    have hpart := ofClause?_clause part
    rw [clause, ofClause?_boolClause, Outline.ofParts, Outline.ofClauses?, hpart]
    rfl
  | leaf l => exact Outline.ofClause?_leaf l.path l.condition

theorem ofClauses?_clauses (parts : List QueryTree) :
    ofClauses? (clauses parts) = some (outlines parts) := by
  cases parts with
  | nil => rfl
  | cons part rest =>
    rw [clauses, Outline.ofClauses?, ofClause?_clause part, ofClauses?_clauses rest]
    rfl

end

/-- No clause of a tree has a filter, so none is taken for a query within a window of time. -/
theorem filtered?_clause (tree : QueryTree) : filtered? tree.clause = none := by
  cases tree with
  | leaf l =>
    obtain ⟨field, path, condition⟩ := l
    cases condition <;> rfl
  | _ => rfl

end QueryTree

end ReportSearch
