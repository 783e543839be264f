import ReportSearch.Query.Tree

/-!
# Queries in the language of the search index

The JSON clauses that a query tree becomes.
-/

set_option autoImplicit false

namespace ReportSearch

namespace Condition

def clause (path : String) : Condition → Json
  | term value => .obj [("term", .obj [(path, value.json)])]
  | terms values => .obj [("terms", .obj [(path, .arr (values.map Scalar.json))])]
  | allWords text =>
    .obj [("match", .obj [(path, .obj [("query", .str text), ("operator", .str "and")])])]
  | phrase text => .obj [("match_phrase", .obj [(path, .str text)])]
  | startsWith text => .obj [("prefix", .obj [(path, .str text)])]
  | matchesPattern pattern => .obj [("regexp", .obj [(path, .str pattern)])]
  | range bounds => .obj [("range", .obj [(path, .obj bounds.json)])]
  | isPresent => .obj [("exists", .obj [("field", .str path)])]

end Condition

namespace QueryTree

def boolClause (members : List (String × Json)) : Json := .obj [("bool", .obj members)]

mutual

def clause : QueryTree → Json
  | everything => .obj [("match_all", .obj [])]
  | all parts => boolClause [("must", .arr (clauses parts))]
  | any parts => boolClause [("should", .arr (clauses parts)), ("minimum_should_match", .ofNat 1)]
  | not part => boolClause [("must_not", .arr [clause part])]
  | leaf l => l.condition.clause l.path

def clauses : List QueryTree → List Json
  | [] => []
  | part :: rest => clause part :: clauses rest

end

end QueryTree

end ReportSearch
