import ReportSearch.Pattern.Reader
import ReportSearch.Rule.Fault

/-!
# The patterns of the search index

The search index knows fewer patterns than the reader: they always match a whole value, and have no
flags, no classes named by letters and no lazy repetitions. `unsupported?` walks over a pattern from
left to right and finds the first form that the index does not know.
-/

set_option autoImplicit false

namespace ReportSearch.Pattern

/-- What follows the start of a bracketed set: a caret, and a closing bracket after it, belong to
the start. -/
def afterSetStart : List Char → List Char
  | '^' :: ']' :: rest => rest
  | '^' :: rest => rest
  | ']' :: rest => rest
  | rest => rest

theorem length_afterSetStart (rest : List Char) :
    (afterSetStart rest).length ≤ rest.length := by
  unfold afterSetStart
  split
  · exact Nat.le_add_right _ 2
  · exact Nat.le_succ _
  · exact Nat.le_succ _
  · exact Nat.le_refl _

def repetitionMarks : List Char := ['*', '+', '?', '\x7d']

/-- The first form in a pattern that the search index does not know. -/
def unsupportedFrom? (inSet : Bool) (pattern : List Char) : Option ValueFault :=
  match pattern with
  | [] => none
  | '\\' :: next :: rest =>
    if next.isAlphanum then some (.patternEscape next) else unsupportedFrom? inSet rest
  | '[' :: rest =>
    if inSet then unsupportedFrom? true rest
    else unsupportedFrom? true (afterSetStart rest)
  | ']' :: rest => unsupportedFrom? false rest
  | c :: rest =>
    if inSet then unsupportedFrom? true rest
    else if c = '^' || c = '$' then some .patternAnchor
    else if c = '(' && rest.head? = some '?' then some .patternGroup
    else if repetitionMarks.contains c && rest.head? = some '?' then some .patternLazy
    else unsupportedFrom? false rest
termination_by pattern.length
decreasing_by
  all_goals simp
  all_goals have := length_afterSetStart rest
  all_goals omega

def unsupported? (pattern : String) : Option ValueFault := unsupportedFrom? false pattern.toList

end ReportSearch.Pattern
