import ReportSearch.Proofs.Rule.Accepted

/-!
# Patterns that pass

Brackets nest for the reader of a pattern, while the check of the search index only knows whether it
is inside a set, and leaves the set at the first closing bracket. So where the check takes itself to
be inside, some bracket is open: what it passes over without a look is never outside of all
brackets.
-/

set_option autoImplicit false

namespace ReportSearch.Pattern

/-- What a reader of nested brackets has just met. -/
inductive Mark where
  | plain
  /-- An opening bracket. -/
  | opened
  /-- An opening bracket and the caret that belongs to it. -/
  | negated
  /-- A backslash, which takes the next character with it. -/
  | escaped
  deriving DecidableEq, Repr

/-- How many brackets are open at a place of a pattern, and what stands directly before it. -/
structure Place where
  depth : Nat
  mark : Mark
  deriving DecidableEq, Repr

namespace Place

def start : Place := ⟨0, .plain⟩

/-- The place after one more character. -/
def step (place : Place) (c : Char) : Place :=
  match place.mark, c with
  | .escaped, _ => ⟨place.depth, .plain⟩
  | .opened, '^' => ⟨place.depth, .negated⟩
  | .opened, ']' => ⟨place.depth, .plain⟩
  | .negated, ']' => ⟨place.depth, .plain⟩
  | _, '\\' => ⟨place.depth, .escaped⟩
  | _, '[' => ⟨place.depth + 1, .opened⟩
  | _, ']' => ⟨place.depth - 1, .plain⟩
  | _, _ => ⟨place.depth, .plain⟩

/-- Whether the search index knows a character `c` at a place, with `after` behind it. -/
structure Admits (place : Place) (c : Char) (after : List Char) : Prop where
  escape : c = '\\' → ∀ next ∈ after.head?, next.isAlphanum = false
  anchor : place.depth = 0 → c ≠ '^' ∧ c ≠ '$'
  group : place.depth = 0 → c = '(' → after.head? ≠ some '?'
  repetition : place.depth = 0 → c ∈ ['*', '+', '?', '\x7d'] → after.head? ≠ some '?'

end Place

open Place

variable {place : Place} {inSet : Bool} {c next : Char} {cs rest : List Char}

end ReportSearch.Pattern
