import ReportSearch.Query.Clause
import ReportSearch.Query.OfRules

/-!
# The truth of queries

A query tree is true or false once its leaves are, and so is a clause of the search index once the
clauses are that are not boolean. The clause of a tree has the truth of the tree, whatever its
shape; nothing is said here of what a leaf asks.
-/

set_option autoImplicit false

namespace ReportSearch

namespace Leaf

def clause (leaf : Leaf) : Json := leaf.condition.clause leaf.path

end Leaf

namespace QueryTree

mutual

/-- Whether a tree is true, given which leaves are. -/
def holds (truth : Leaf → Bool) : QueryTree → Bool
  | everything => true
  | all parts => allHold truth parts
  | any parts => anyHolds truth parts
  | not part => !holds truth part
  | leaf l => truth l

def allHold (truth : Leaf → Bool) : List QueryTree → Bool
  | [] => true
  | part :: rest => holds truth part && allHold truth rest

def anyHolds (truth : Leaf → Bool) : List QueryTree → Bool
  | [] => false
  | part :: rest => holds truth part || anyHolds truth rest

end

variable (truth : Leaf → Bool)

theorem allHold_eq (parts : List QueryTree) : allHold truth parts = parts.all (holds truth) := by
  induction parts with
  | nil => rfl
  | cons part rest ih => rw [allHold, ih, List.all_cons]

theorem anyHolds_eq (parts : List QueryTree) : anyHolds truth parts = parts.any (holds truth) := by
  induction parts with
  | nil => rfl
  | cons part rest ih => rw [anyHolds, ih, List.any_cons]

@[simp] theorem holds_everything : holds truth everything = true := rfl

@[simp] theorem holds_all (parts : List QueryTree) :
    holds truth (all parts) = parts.all (holds truth) := allHold_eq truth parts

@[simp] theorem holds_any (parts : List QueryTree) :
    holds truth (any parts) = parts.any (holds truth) := anyHolds_eq truth parts

@[simp] theorem holds_not (part : QueryTree) : holds truth (not part) = !holds truth part := rfl

@[simp] theorem holds_leaf (l : Leaf) : holds truth (leaf l) = truth l := rfl

end QueryTree

namespace Clause

/-- How many clauses under `should` have to hold: as many as is said, or else one where nothing
else is required. -/
def leastShould (parts : List (String × Json)) : Nat :=
  match (parts.lookup "minimum_should_match").bind Json.nat64? with
  | some least => least
  | none =>
    if (parts.lookup "should").isSome && (parts.lookup "must").isNone &&
        (parts.lookup "filter").isNone then 1
    else 0

/-- A boolean clause from the verdicts on the clauses of its parts. -/
def combine (least : Nat) (verdicts : List (String × List Bool)) : Bool :=
  let on (part : String) : List Bool := (verdicts.lookup part).getD []
  (on "must").all id && (on "filter").all id && !(on "must_not").any id &&
    decide (least ≤ (on "should").count true)

mutual

/-- Whether a clause is true, given which clauses are that are not boolean. -/
def holds (truth : Json → Bool) : Json → Bool
  | .obj [(key, .obj parts)] =>
    if key = "match_all" then true
    else if key = "bool" then combine (leastShould parts) (verdicts truth parts)
    else truth (.obj [(key, .obj parts)])
  | other => truth other

/-- The verdicts on the clauses of each part, which holds a list of clauses or a single one. -/
def verdicts (truth : Json → Bool) : List (String × Json) → List (String × List Bool)
  | [] => []
  | (part, .arr clauses) :: rest => (part, listVerdicts truth clauses) :: verdicts truth rest
  | (part, clause) :: rest => (part, [holds truth clause]) :: verdicts truth rest

def listVerdicts (truth : Json → Bool) : List Json → List Bool
  | [] => []
  | clause :: rest => holds truth clause :: listVerdicts truth rest

end

variable (truth : Json → Bool)

theorem listVerdicts_eq (clauses : List Json) :
    listVerdicts truth clauses = clauses.map (holds truth) := by
  induction clauses with
  | nil => rfl
  | cons clause rest ih => rw [listVerdicts, ih, List.map_cons]

theorem holds_boolClause (parts : List (String × Json)) :
    holds truth (QueryTree.boolClause parts) =
      combine (leastShould parts) (verdicts truth parts) := by
  rw [QueryTree.boolClause, holds]
  rfl

theorem holds_must (clauses : List Json) :
    holds truth (QueryTree.boolClause [("must", .arr clauses)]) = clauses.all (holds truth) := by
  rw [holds_boolClause]
  simp [leastShould, verdicts, combine, listVerdicts_eq, List.lookup_cons]

theorem holds_should (clauses : List Json) :
    holds truth (QueryTree.boolClause
      [("should", .arr clauses), ("minimum_should_match", .ofNat 1)]) =
        clauses.any (holds truth) := by
  have hleast : leastShould [("should", .arr clauses), ("minimum_should_match", .ofNat 1)] = 1 :=
    rfl
  rw [holds_boolClause, hleast, Bool.eq_iff_iff]
  simp [verdicts, combine, listVerdicts_eq, List.lookup_cons, Json.ofNat]

theorem holds_must_not (clause : Json) :
    holds truth (QueryTree.boolClause [("must_not", .arr [clause])]) = !holds truth clause := by
  rw [holds_boolClause]
  simp [leastShould, verdicts, combine, listVerdicts_eq, List.lookup_cons]

theorem holds_must_filter (query window : Json) :
    holds truth (QueryTree.boolClause [("must", .arr [query]), ("filter", .arr [window])]) =
      (holds truth query && holds truth window) := by
  rw [holds_boolClause]
  simp [leastShould, verdicts, combine, listVerdicts_eq, List.lookup_cons]

/-- The clause of a leaf is not boolean. -/
theorem holds_leaf_clause (l : Leaf) : holds truth l.clause = truth l.clause := by
  obtain ⟨field, path, condition⟩ := l
  cases condition <;> simp [Leaf.clause, Condition.clause, holds]

end Clause

namespace QueryTree

open Clause (holds_must holds_should holds_must_not holds_leaf_clause)

variable (truth : Json → Bool)

mutual

theorem holds_clause (tree : QueryTree) :
    Clause.holds truth tree.clause = tree.holds (fun l => truth l.clause) := by
  cases tree with
  | everything => rfl
  | all parts =>
    rw [clause, holds_must, holds]
    exact all_holds_clauses parts
  | any parts =>
    rw [clause, holds_should, holds]
    exact any_holds_clauses parts
  | not part => rw [clause, holds_must_not, holds, holds_clause part]
  | leaf l => exact holds_leaf_clause truth l

theorem all_holds_clauses (parts : List QueryTree) :
    (clauses parts).all (Clause.holds truth) = allHold (fun l => truth l.clause) parts := by
  cases parts with
  | nil => rfl
  | cons part rest =>
    rw [clauses, List.all_cons, allHold, holds_clause part, all_holds_clauses rest]

theorem any_holds_clauses (parts : List QueryTree) :
    (clauses parts).any (Clause.holds truth) = anyHolds (fun l => truth l.clause) parts := by
  cases parts with
  | nil => rfl
  | cons part rest =>
    rw [clauses, List.any_cons, anyHolds, holds_clause part, any_holds_clauses rest]

end

theorem holds_conjunction (truth : Leaf → Bool) (trees : List QueryTree) :
    (conjunction trees).holds truth = trees.all (holds truth) := by
  match trees with
  | [] => rfl
  | [tree] => simp [conjunction]
  | first :: second :: rest => exact holds_all truth (first :: second :: rest)

end QueryTree

end ReportSearch
