import ReportSearch.Proofs.Catalog.Listing
import ReportSearch.Proofs.Command.Shorthand
import ReportSearch.Proofs.Rule.Accepted
import ReportSearch.Proofs.Rule.MissingValue
import ReportSearch.Proofs.Text.Digits

/-!
# Values written as texts

On a command line every value is a text. An integer or a truth value that is written out is checked
like the value itself: each reader of scalars gives the same for both, so that the rules with either
are accepted together and become one checked rule.
-/

set_option autoImplicit false

namespace ReportSearch

open Attempts Text

/-- Integers in decimal, and truth values by their names. -/
inductive Json.IsSpelled : Json → String → Prop where
  | int (i : Int) : IsSpelled (.ofInt i) (toString i)
  | bool (b : Bool) : IsSpelled (.bool b) (toString b)

namespace Scalar

variable {field : Field} {value : Json} {text : String}

theorem readText?_spelled (h : value.IsSpelled text) : readText? (.str text) = readText? value := by
  cases h <;> rfl

theorem isInt64_iff {i : Int} :
    Number.isInt64 i = true ↔ -0x8000000000000000 ≤ i ∧ i < 0x8000000000000000 := by
  have hleast : Number.leastInt64 = -0x8000000000000000 := rfl
  have hgreatest : Number.greatestInt64 = 0x7fffffffffffffff := rfl
  rw [Number.isInt64, hleast, hgreatest, Bool.and_eq_true, decide_eq_true_iff, decide_eq_true_iff]
  omega

theorem readInteger?_spelled (h : value.IsSpelled text) :
    readInteger? (.str text) = readInteger? value := by
  cases h with
  | int i =>
    have htext : readInt64? (trim (toString i)) = if Number.isInt64 i then some i else none := by
      rw [trim_toString, readInt64?, readInt?_toString, Option.bind_some]
      simp only [isInt64_iff]
    exact htext
  | bool b => cases b <;> decide +kernel

theorem toLower_of_isDigit {c : Char} (h : c.isDigit = true) : c.toLower = c := by
  obtain ⟨-, hto⟩ := isDigit_iff.mp h
  have hmost : c.toNat ≤ 57 := hto
  refine dif_neg ?_
  rintro ⟨hfrom, -⟩
  have hleast : 65 ≤ c.toNat := hfrom
  omega

theorem lowerAscii_toString (i : Int) : lowerAscii (toString i).toList = (toString i).toList := by
  rw [toList_toString, lowerAscii]
  have hdigits : ∀ n, (Nat.toDigits 10 n).map Char.toLower = Nat.toDigits 10 n := by
    intro n
    rw [List.map_congr_left fun c hc => toLower_of_isDigit (isDigit_of_mem_toDigits hc),
      List.map_id']
  split
  · exact hdigits _
  · rw [List.map_cons, hdigits]
    rfl

/-- Of the words for truth values only a digit is an integer. -/
theorem contains_toString {words : List String} {n : Int}
    (h : ∀ word ∈ words, readInt? word.toList = none ∨ word = toString n)
    (hmem : toString n ∈ words) (i : Int) : words.contains (toString i) = decide (i = n) := by
  rw [List.contains_eq_mem, decide_eq_decide]
  constructor
  · intro hi
    rcases h _ hi with hnone | heq
    · rw [readInt?_toString] at hnone
      cases hnone
    · have hread := readInt?_toString i
      rw [heq, readInt?_toString] at hread
      exact (Option.some.inj hread).symm
  · rintro rfl
    exact hmem

theorem readBool?_ofInt (i : Int) :
    readBool? (.ofInt i) = if i = 1 then some true else if i = 0 then some false else none := by
  by_cases hone : i = 1
  · rw [hone]
    rfl
  · by_cases hzero : i = 0
    · rw [hzero]
      rfl
    · rw [if_neg hone, if_neg hzero]
      simp only [readBool?, Json.ofInt]
      split
      · rename_i hread
        cases (Number.int64?_eq_some_iff.mp hread).1
        exact absurd rfl hone
      · rename_i hread
        cases (Number.int64?_eq_some_iff.mp hread).1
        exact absurd rfl hzero
      · rfl

theorem readBool?_spelled (h : value.IsSpelled text) : readBool? (.str text) = readBool? value := by
  cases h with
  | int i =>
    have htrue : trueWords.contains (toString i) = decide (i = 1) :=
      contains_toString (by decide +kernel) (by decide) i
    have hfalse : falseWords.contains (toString i) = decide (i = 0) :=
      contains_toString (by decide +kernel) (by decide) i
    rw [readBool?_ofInt]
    simp only [readBool?, trim_toString, lowerAscii_toString, String.ofList_toList, htrue, hfalse,
      decide_eq_true_eq]
  | bool b => cases b <;> decide +kernel

theorem readDate?_spelled (h : value.IsSpelled text) (hint : ∀ b, value ≠ .bool b)
    (formats : List DateFormat) : readDate? formats (.str text) = readDate? formats value := by
  cases h with
  | int i => rfl
  | bool b => exact absurd rfl (hint b)

/-- The text and the value are refused with faults of their own, but accepted as one scalar. -/
theorem ofField_spelled_iff {scalar : Scalar} (h : value.IsSpelled text)
    (hdouble : field.type ≠ .double) (hdate : field.type = .date → ∀ b, value ≠ .bool b) :
    ofField field (.str text) = .ok scalar ↔ ofField field value = .ok scalar := by
  cases htype : field.type with
  | double => exact absurd htype hdouble
  | date =>
    simp only [ofField, htype, readDate?_spelled h (hdate htype)]
    cases readDate? field.dateFormats value <;> simp
  | string =>
    simp only [ofField, htype, readText?_spelled h]
    cases readText? value <;> simp
  | keyword =>
    simp only [ofField, htype, readText?_spelled h]
    cases readText? value <;> simp
  | boolean =>
    simp only [ofField, htype, readBool?_spelled h]
    cases readBool? value <;> simp
  | integer =>
    simp only [ofField, htype, readInteger?_spelled h]
    cases readInteger? value with
    | none => simp
    | some i => by_cases hrange : isInt32 i = true <;> simp [hrange]
  | long =>
    simp only [ofField, htype, readInteger?_spelled h]
    cases readInteger? value <;> simp
  | nestedObject => simp [ofField, htype]

theorem single_spelled (h : value.IsSpelled text) :
    single field (.str text) = ofField field (.str text) ∧
      single field value = ofField field value := by
  cases h <;> exact ⟨rfl, rfl⟩

end Scalar

theorem Operand.ofValue_congr_ok {field : Field} {op : Operator} {value other : Json}
    {operand : Operand} (hlist : op ≠ .isIn) (hpattern : op ≠ .regex)
    (h : ∀ scalar,
      Scalar.single field value = .ok scalar ↔ Scalar.single field other = .ok scalar) :
    ofValue field op value = .ok operand ↔ ofValue field op other = .ok operand := by
  by_cases hop : op.takesOne = true
  · cases hvalue : Scalar.single field value with
    | ok scalar => rw [ofValue_congr hop (hvalue.trans ((h scalar).mp hvalue).symm)]
    | error fault =>
      cases hother : Scalar.single field other with
      | ok scalar => cases hvalue.symm.trans ((h scalar).mpr hother)
      | error fault' => simp [ofValue_of_error hop hvalue, ofValue_of_error hop hother]
  · cases op with
    | isIn => exact absurd rfl hlist
    | regex => exact absurd rfl hpattern
    | isPresent => exact Iff.rfl
    | _ => exact absurd rfl hop

namespace Rule

variable {catalog : Catalog} {field : Field} {op : Operator} {operator text : String} {value : Json}

/-- A value in the place of another one that the field takes as the same scalar. -/
theorem check_congr_ok {rule : Rule} {other : Json} {checked : CheckedRule}
    (hfield : catalog.lookup? rule.field = some field)
    (hop : Operator.ofText? rule.operator = some op) (hlist : op ≠ .isIn) (hpattern : op ≠ .regex)
    (h : ∀ scalar,
      Scalar.single field rule.value = .ok scalar ↔ Scalar.single field other = .ok scalar) :
    check catalog rule = .ok checked ↔
      check catalog { rule with value := other } = .ok checked := by
  rw [check_eq rule hfield hop, check_eq { rule with value := other } hfield hop]
  split
  · simp only [map_eq_ok_iff, Operand.ofValue_congr_ok hlist hpattern h]
  · exact Iff.rfl

theorem head?_trim_of_mark (hmark : operator.toList.head? = some '!') :
    (trim operator).toList.head? = some '!' := by
  obtain ⟨rest, hrest⟩ := List.head?_eq_some_iff.mp hmark
  have hblank : ∀ c ∈ ['!'], isBlank c = false := List.forall_mem_singleton.mpr rfl
  have htrim := @trimChars_append ['!'] [] rest hblank (by simp)
  rw [trim, String.toList_ofList, hrest]
  exact (congrArg List.head? htrim).trans rfl

/-- The text of an operator is a part of rules, and none that reads as negated. -/
theorem isPart_of_ofText? (hop : Operator.ofText? operator = some op)
    (hcolon : ':' ∉ operator.toList) :
    IsPart operator ∧ operator.toList.head? ≠ some '!' := by
  have hword : trim operator ∈ op.name :: op.signs := by
    have hfound := List.find?_some hop
    rwa [List.contains_iff_mem] at hfound
  have hheads : ∀ word ∈ op.name :: op.signs,
      word.toList.head? ≠ none ∧ word.toList.head? ≠ some '!' := by
    cases op <;> decide
  obtain ⟨hne, hplain⟩ := hheads _ hword
  refine ⟨⟨?_, hcolon⟩, fun hmark => hplain (head?_trim_of_mark hmark)⟩
  rintro rfl
  exact hne rfl

/-- A rule with an integer or a truth value is checked like the rule of the command line that spells
the value out, except where the operator takes a list or a pattern. -/
theorem spelled_value_agrees {source : Json} {mapping : Mapping} {field : Field} {op : Operator}
    {operator text : String} {value : Json} (version : Nat) (isNegated : Bool)
    (hkeys : source.KeysDistinct) (hread : Mapping.ofJson source = .ok mapping)
    (hfield : field ∈ mapping.fields)
    (htype : field.type ∈ [.string, .keyword, .boolean, .integer, .long, .date])
    (hname : ':' ∉ field.name.toList) (hop : Operator.ofText? operator = some op)
    (hcolon : ':' ∉ operator.toList) (hlist : op ≠ .isIn) (hpattern : op ≠ .regex)
    (hvalue : value.IsSpelled text) (hdate : field.type = .date → ∀ b, value ≠ .bool b) :
    ∃ rule, ofShorthand (written field.name operator isNegated (some text)) = .ok rule ∧
      ∀ checked, check (Catalog.ofMapping mapping version) rule = .ok checked ↔
        check (Catalog.ofMapping mapping version) ⟨field.name, operator, value, isNegated⟩ =
          .ok checked := by
  have hpart : IsPart field.name :=
    ⟨(Mapping.field_wellFormed hkeys hread field hfield).name_ne_empty, hname⟩
  obtain ⟨hoperator, hmark⟩ := isPart_of_ofText? hop hcolon
  have hlookup : (Catalog.ofMapping mapping version).lookup? field.name = some field :=
    (Catalog.lookup?_eq_some_iff (Mapping.names_nodup hread)).mpr ⟨hfield, rfl⟩
  have hdouble : field.type ≠ .double := by
    intro heq
    rw [heq] at htype
    exact absurd htype (by decide)
  refine ⟨_, ofShorthand_written hpart hoperator hmark (some text), ?_⟩
  have htext : shorthandValue operator ((some text).map String.toList) = .str text := by
    have hother : Operator.ofText? operator ≠ some .isIn := by
      rw [hop]
      exact fun heq => hlist (Option.some.inj heq)
    simp [shorthandValue, hother]
  intro checked
  rw [htext]
  refine check_congr_ok hlookup hop hlist hpattern fun scalar => ?_
  obtain ⟨hsingle, hsingle'⟩ := Scalar.single_spelled hvalue
  rw [hsingle, hsingle']
  exact Scalar.ofField_spelled_iff hvalue hdouble hdate

/-- A number of cores below a negative number, negated. -/
def checkedCores : CheckedRule where
  field := coresField
  operator := .lessThan
  operand := .single (.integer (-4))
  isNegated := true

theorem spelled_cores_agrees :
    Mapping.sampleSource.KeysDistinct ∧ Mapping.ofJson Mapping.sampleSource = .ok Mapping.sample ∧
      coresField ∈ Mapping.sample.fields ∧
      coresField.type ∈ [.string, .keyword, .boolean, .integer, .long, .date] ∧
      ':' ∉ coresField.name.toList ∧ Operator.ofText? "< " = some .lessThan ∧
      ':' ∉ "< ".toList ∧ (Json.ofInt (-4)).IsSpelled "-4" ∧
      ∃ rule, ofShorthand "system.cores:!< :-4" = .ok rule ∧
        check (Catalog.ofMapping Mapping.sample 1) rule = .ok checkedCores := by
  have hfield : coresField ∈ Mapping.sample.fields := by decide
  have hop : Operator.ofText? "< " = some .lessThan := by decide +kernel
  have hvalue : (Json.ofInt (-4)).IsSpelled "-4" := .int (-4)
  have hcheck : check (Catalog.ofMapping Mapping.sample 1)
      ⟨coresField.name, "< ", .ofInt (-4), true⟩ = .ok checkedCores := by
    decide +kernel
  obtain ⟨rule, hrule, hagree⟩ := spelled_value_agrees 1 true
    Mapping.keysDistinct_sampleSource Mapping.ofJson_sampleSource hfield (by decide) (by decide) hop
    (by decide) (by decide) (by decide) hvalue (by rintro ⟨⟩)
  exact ⟨Mapping.keysDistinct_sampleSource, Mapping.ofJson_sampleSource, hfield, by decide,
    by decide, hop, by decide, hvalue, rule, hrule, (hagree _).mpr hcheck⟩

end Rule

end ReportSearch
