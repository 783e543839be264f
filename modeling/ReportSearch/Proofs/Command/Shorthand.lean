import ReportSearch.Command.Shorthand
import ReportSearch.Proofs.Text.Blank

/-!
# Shorthand of rules, read back

A rule that is written from its parts is read as these parts: colons in its value, and commas in the
value of any operator but `in`, stand for themselves. A text is no rule exactly when it has no field
or no operator.
-/

set_option autoImplicit false

namespace ReportSearch

namespace Text

variable {c : Char} {cs before after : List Char}

theorem cutAt?_append (h : c ∉ before) :
    cutAt? c (before ++ c :: after) = some (before, after) := by
  have hbefore : ∀ d ∈ before, (d != c) = true := by
    intro d hd
    rw [bne_iff_ne]
    rintro rfl
    exact h hd
  rw [cutAt?, List.dropWhile_append_of_pos hbefore, List.takeWhile_append_of_pos hbefore]
  simp

theorem cutAt?_of_notMem (h : c ∉ cs) : cutAt? c cs = none := by
  have hdrop : cs.dropWhile (· != c) = [] := by
    rw [List.dropWhile_eq_nil_iff]
    intro d hd
    rw [bne_iff_ne]
    rintro rfl
    exact h hd
  rw [cutAt?, hdrop]

theorem cut_cases (c : Char) (cs : List Char) :
    c ∉ cs ∨ ∃ before after, c ∉ before ∧ cs = before ++ c :: after := by
  by_cases h : c ∈ cs
  · obtain ⟨before, after, rfl, hbefore⟩ := List.eq_append_cons_of_mem h
    exact Or.inr ⟨before, after, hbefore, rfl⟩
  · exact Or.inl h

end Text

open Text

namespace Rule

structure IsPart (text : String) : Prop where
  ne : text ≠ ""
  colon : ':' ∉ text.toList

def written (field operator : String) (isNegated : Bool) (value : Option String) : String :=
  field ++ ":" ++ (if isNegated then "!" else "") ++ operator ++
    match value with
    | some value => ":" ++ value
    | none => ""

/-- The texts without a colon, without a field before the first colon, or without an operator behind
it. -/
inductive LacksPart : String → Prop where
  | colon {text : String} (h : ':' ∉ text.toList) : LacksPart text
  | field (rest : String) : LacksPart (":" ++ rest)
  | operator {field : String} (h : ':' ∉ field.toList) (rest : String) :
      LacksPart (field ++ "::" ++ rest)
  | ending {field : String} (h : ':' ∉ field.toList) : LacksPart (field ++ ":")

variable {field operator text : String} {isNegated : Bool}

/-- An operator with the mark of its negation. -/
def marked (isNegated : Bool) (operator : List Char) : List Char :=
  if isNegated then '!' :: operator else operator

theorem cutNegation_marked {operator : List Char} (h : operator.head? ≠ some '!') :
    cutNegation (marked isNegated operator) = (isNegated, operator) := by
  cases isNegated with
  | true => rfl
  | false =>
    cases operator with
    | nil => rfl
    | cons c rest =>
      unfold cutNegation marked
      split
      · rename_i heq
        cases heq
        exact absurd rfl h
      · rfl

theorem cutShorthand?_of_three {field operator : List Char} (hfield : ':' ∉ field)
    (hoperator : ':' ∉ operator) (value : List Char) :
    cutShorthand? (field ++ ':' :: (operator ++ ':' :: value)) =
      if field.isEmpty || operator.isEmpty then none else some (field, operator, some value) := by
  simp only [cutShorthand?, cutAt?_append hfield, cutAt?_append hoperator]

theorem cutShorthand?_of_two {field operator : List Char} (hfield : ':' ∉ field)
    (hoperator : ':' ∉ operator) :
    cutShorthand? (field ++ ':' :: operator) =
      if field.isEmpty || operator.isEmpty then none else some (field, operator, none) := by
  simp only [cutShorthand?, cutAt?_append hfield, cutAt?_of_notMem hoperator]

theorem cutShorthand?_of_one {cs : List Char} (h : ':' ∉ cs) : cutShorthand? cs = none := by
  simp only [cutShorthand?, cutAt?_of_notMem h]

theorem lacksPart_of_empty {field rest : List Char} (hcolon : ':' ∉ field)
    (htext : text.toList = field ++ ':' :: rest)
    (hempty : field = [] ∨ rest = [] ∨ ∃ value, rest = ':' :: value) : LacksPart text := by
  have hcolon' : ':' ∉ (String.ofList field).toList := by
    rwa [String.toList_ofList]
  rcases hempty with rfl | rfl | ⟨value, rfl⟩
  · have heq : text = ":" ++ String.ofList rest := String.toList_inj.mp (by simp [htext])
    rw [heq]
    exact .field _
  · have heq : text = String.ofList field ++ ":" := String.toList_inj.mp (by simp [htext])
    rw [heq]
    exact .ending hcolon'
  · have heq : text = String.ofList field ++ "::" ++ String.ofList value :=
      String.toList_inj.mp (by simp [htext])
    rw [heq]
    exact .operator hcolon' _

theorem cutShorthand?_eq_none_iff : cutShorthand? text.toList = none ↔ LacksPart text := by
  constructor
  · intro h
    rcases cut_cases ':' text.toList with hcolon | ⟨field, rest, hfield, htext⟩
    · exact .colon hcolon
    · apply lacksPart_of_empty hfield htext
      rw [htext] at h
      rcases cut_cases ':' rest with hcolon | ⟨operator, value, hoperator, rfl⟩
      · rw [cutShorthand?_of_two hfield hcolon] at h
        simp only [ite_eq_left_iff, Bool.or_eq_true, List.isEmpty_iff, reduceCtorEq, imp_false,
          not_not] at h
        exact h.imp_right Or.inl
      · rw [cutShorthand?_of_three hfield hoperator] at h
        simp only [ite_eq_left_iff, Bool.or_eq_true, List.isEmpty_iff, reduceCtorEq, imp_false,
          not_not] at h
        rcases h with hempty | rfl
        · exact Or.inl hempty
        · exact Or.inr (Or.inr ⟨value, rfl⟩)
  · intro h
    cases h with
    | colon h => exact cutShorthand?_of_one h
    | field rest =>
      have hcolon : ':' ∉ ([] : List Char) := List.not_mem_nil
      rcases cut_cases ':' rest.toList with hrest | ⟨operator, value, hoperator, hrest⟩
      · have hcut := cutShorthand?_of_two hcolon hrest
        simpa using hcut
      · have hcut := cutShorthand?_of_three hcolon hoperator value
        simpa [hrest] using hcut
    | @operator field h rest =>
      have hcut := cutShorthand?_of_three h List.not_mem_nil rest.toList
      simpa using hcut
    | @ending field h =>
      have hcut := cutShorthand?_of_two h List.not_mem_nil
      simpa using hcut

theorem toList_written :
    (written field operator isNegated none).toList =
        field.toList ++ ':' :: marked isNegated operator.toList ∧
      ∀ value, (written field operator isNegated (some value)).toList =
        field.toList ++ ':' :: (marked isNegated operator.toList ++ ':' :: value.toList) := by
  cases isNegated <;> simp [written, marked]

theorem ofShorthand_written (hfield : IsPart field) (hoperator : IsPart operator)
    (hmark : operator.toList.head? ≠ some '!') (value : Option String) :
    ofShorthand (written field operator isNegated value) =
      .ok ⟨field, operator, shorthandValue operator (value.map String.toList), isNegated⟩ := by
  have hcolon : ':' ∉ marked isNegated operator.toList := by
    cases isNegated <;> simp [marked, hoperator.colon]
  have hempty : (field.toList.isEmpty || (marked isNegated operator.toList).isEmpty) = false := by
    cases isNegated <;> simp [marked, hfield.ne, hoperator.ne]
  have hcut : cutShorthand? (written field operator isNegated value).toList =
      some (field.toList, marked isNegated operator.toList, value.map String.toList) := by
    cases value with
    | none => rw [toList_written.1, cutShorthand?_of_two hfield.colon hcolon, hempty]; rfl
    | some value =>
      rw [toList_written.2, cutShorthand?_of_three hfield.colon hcolon, hempty]
      rfl
  simp only [ofShorthand, hcut, cutNegation_marked hmark, String.ofList_toList]

theorem shorthandValue_of_isIn (hop : Operator.ofText? operator = some .isIn) {items : List String}
    (hne : items ≠ []) (hitems : ∀ item ∈ items, ',' ∉ item.toList ∧ trim item = item) :
    shorthandValue operator (some (",".intercalate items).toList) = .ofStrings items := by
  have hsplit : splitOnChar ',' (",".intercalate items).toList = items.map String.toList :=
    splitOnChar_toList_intercalate rfl hne fun item hitem => (hitems item hitem).1
  have htrim : items.map trim = items := by
    rw [List.map_congr_left fun item hitem => (hitems item hitem).2, List.map_id']
  simp only [shorthandValue, hop, if_true, hsplit, List.map_map]
  exact congrArg Json.ofStrings htrim

/-- A written rule is read as its parts, and the texts without a field or an operator are no rules.
-/
theorem shorthand_read_back :
    (∀ (field operator : String) (isNegated : Bool), IsPart field → IsPart operator →
      operator.toList.head? ≠ some '!' →
        ofShorthand (written field operator isNegated none) =
          .ok ⟨field, operator, .null, isNegated⟩ ∧
        (Operator.ofText? operator ≠ some .isIn → ∀ value,
          ofShorthand (written field operator isNegated (some value)) =
            .ok ⟨field, operator, .str value, isNegated⟩) ∧
        (Operator.ofText? operator = some .isIn → ∀ items : List String, items ≠ [] →
          (∀ item ∈ items, ',' ∉ item.toList ∧ trim item = item) →
            ofShorthand (written field operator isNegated (some (",".intercalate items))) =
              .ok ⟨field, operator, .ofStrings items, isNegated⟩)) ∧
    ∀ text fault, ofShorthand text = .error fault ↔ LacksPart text ∧ fault = .rule text := by
  constructor
  · intro field operator isNegated hfield hoperator hmark
    refine ⟨ofShorthand_written hfield hoperator hmark none, ?_, ?_⟩
    · intro hop value
      rw [ofShorthand_written hfield hoperator hmark]
      simp [shorthandValue, hop]
    · intro hop items hne hitems
      rw [ofShorthand_written hfield hoperator hmark, Option.map_some,
        shorthandValue_of_isIn hop hne hitems]
  · intro text fault
    rw [← cutShorthand?_eq_none_iff, ofShorthand]
    split
    · rename_i hcut
      simp [hcut, eq_comm]
    · rename_i hcut
      simp [hcut]

/-- A negated rule on a list, with a blank after its operator, and a text that lacks its operator.
-/
theorem shorthand_platforms :
    IsPart "platform" ∧ IsPart "in " ∧ "in ".toList.head? ≠ some '!' ∧
      Operator.ofText? "in " = some .isIn ∧
      ofShorthand (written "platform" "in " true (some (",".intercalate ["a:b", "", "Mac OS X"]))) =
        .ok ⟨"platform", "in ", .ofStrings ["a:b", "", "Mac OS X"], true⟩ ∧
      ofShorthand "platform::in" = .error (.rule "platform::in") := by
  have hfield : IsPart "platform" := ⟨by decide, by decide⟩
  have hoperator : IsPart "in " := ⟨by decide, by decide⟩
  have hmark : "in ".toList.head? ≠ some '!' := by decide
  have hop : Operator.ofText? "in " = some .isIn := by decide +kernel
  have hlacks : LacksPart "platform::in" := @LacksPart.operator "platform" (by decide) "in"
  obtain ⟨hread, hfaults⟩ := shorthand_read_back
  refine ⟨hfield, hoperator, hmark, hop, ?_, (hfaults _ _).mpr ⟨hlacks, rfl⟩⟩
  exact (hread "platform" "in " true hfield hoperator hmark).2.2 hop _ (by simp) (by decide +kernel)

end Rule

end ReportSearch
