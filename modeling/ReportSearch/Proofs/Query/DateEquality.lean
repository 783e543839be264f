import ReportSearch.Proofs.Catalog.Lookup
import ReportSearch.Proofs.Query.Fitting
import ReportSearch.Proofs.Time.Timestamp
import ReportSearch.Rule.Check

/-!
# Equal dates

A date that a rule compares for equality is written in the first of its field's formats that reads
its own writing back as this date. But what is stored is read in the first format that reads it at
all. The two are the same format unless one before it takes the text for its own, as a format that
counts seconds takes a number of milliseconds.
-/

set_option autoImplicit false

namespace ReportSearch

/-- But for numbers that are no 64-bit integers, a scalar is written as it was read. -/
theorem Scalar.json_of_ofJson? {value : Json} {scalar : Scalar}
    (h : Scalar.ofJson? value = some scalar) (hdouble : ∀ x, scalar ≠ .double x) :
    scalar.json = value := by
  cases value with
  | str s =>
    cases h
    rfl
  | bool b =>
    cases h
    rfl
  | num n =>
    unfold Scalar.ofJson? at h
    dsimp only at h
    split at h
    · rename_i i hi
      cases h
      cases n with
      | int j =>
        obtain ⟨-, hsame⟩ := Option.ite_none_right_eq_some.mp hi
        cases hsame
        rfl
      | double x => cases hi
    · cases h
      exact absurd rfl (hdouble _)
  | _ => cases h

namespace DateFormat

def text (format : DateFormat) (t : Instant) : String :=
  match format.write t with
  | .str s => s
  | other => other.compact

/-- The format reads its own text of an instant as this instant. -/
def Keeps (format : DateFormat) (t : Instant) : Prop := format.read? (format.text t) = some t

instance (format : DateFormat) (t : Instant) : Decidable (format.Keeps t) :=
  inferInstanceAs (Decidable (_ = _))

def unit? (format : DateFormat) : Option EpochUnit :=
  match format.shape with
  | .epochSeconds => some .seconds
  | .epochMillis => some .millis
  | _ => none

variable {format : DateFormat} {t : Instant}

theorem write_of_unit {unit : EpochUnit} (h : format.unit? = some unit) (t : Instant) :
    format.write t = .ofInt (unit.number t) := by
  obtain ⟨pattern, shape⟩ := format
  cases shape <;> cases h <;> rfl

theorem text_of_unit {unit : EpochUnit} (h : format.unit? = some unit) (t : Instant) :
    format.text t = toString (unit.number t) := by
  rw [text, write_of_unit h]
  exact String.ofList_toList

theorem read?_of_unit {unit : EpochUnit} (h : format.unit? = some unit) (text : String) :
    format.read? text = (Text.readInt64? (Text.trim text)).bind unit.instant? := by
  obtain ⟨pattern, shape⟩ := format
  cases shape <;> cases h <;> rfl

theorem keeps_of_unit_iff {unit : EpochUnit} (h : format.unit? = some unit)
    (ht : t.IsRepresented) : format.Keeps t ↔ unit.IsWhole t := by
  have hint := EpochUnit.isInt64_number ht unit
  rw [Number.isInt64, Bool.and_eq_true, decide_eq_true_iff, decide_eq_true_iff] at hint
  have hread : Text.readInt64? (toString (unit.number t)) = some (unit.number t) :=
    Text.readInt64?_toString ⟨hint.1, Int.lt_add_one_of_le hint.2⟩
  rw [Keeps, text_of_unit h, read?_of_unit h, Text.trim_toString, hread, Option.bind_some,
    EpochUnit.instant?_number_iff ht]

theorem text_of_timestamp (h : format.shape = .timestamp) (t : Instant) :
    format.text t = t.offsetText := by
  simp only [text, write, h]

theorem keeps_of_timestamp (h : format.shape = .timestamp) (ht : t.IsRepresented)
    (hyear : 0 ≤ t.date.year) (hlast : t.date.year ≤ 9999) : format.Keeps t := by
  have hread : readTimestamp? t.offsetText.toList = some t := by
    rw [readTimestamp?, Instant.ofTimestamp?_offsetText ht hyear hlast]
    rfl
  rw [Keeps, text_of_timestamp h]
  simp only [read?, h, Instant.trim_offsetText hyear hlast, hread]

theorem exists_scalar_write (ht : t.IsRepresented) (format : DateFormat) :
    ∃ value, Scalar.ofJson? (format.write t) = some value ∧ value.json = format.write t := by
  rcases format.ofJson?_write ht with ⟨s, hs⟩ | ⟨-, i, hi⟩
  · exact ⟨_, hs, Scalar.json_of_ofJson? hs (by simp)⟩
  · exact ⟨_, hi, Scalar.json_of_ofJson? hi (by simp)⟩

theorem readDate?_write (formats : List DateFormat) (format : DateFormat) (t : Instant) :
    Scalar.readDate? formats (format.write t) = formats.findSome? (·.read? (format.text t)) := by
  cases hunit : format.unit? with
  | some unit =>
    rw [text_of_unit hunit, write_of_unit hunit]
    rfl
  | none =>
    obtain ⟨pattern, shape⟩ := format
    cases shape with
    | epochSeconds => cases hunit
    | epochMillis => cases hunit
    | timestamp => rfl
    | layout template hasTime hasOffset => rfl

end DateFormat

namespace Field

def keepingFormat? (field : Field) (t : Instant) : Option DateFormat :=
  field.dateFormats.find? fun format => format.Keeps t

def formatsBefore (field : Field) (t : Instant) : List DateFormat :=
  field.dateFormats.takeWhile fun format => !decide (format.Keeps t)

/-- An instant is not read again from what is stored for it. -/
inductive Misreads (field : Field) (t : Instant) : Prop where
  /-- A format before the first that keeps the instant reads its text as another instant. -/
  | intercepted {format : DateFormat} {other : Instant}
      (hformat : field.keepingFormat? t = some format)
      (hread : (field.formatsBefore t).findSome? (·.read? (format.text t)) = some other)
      (hne : other ≠ t)
  /-- No format keeps the instant, and the text of the first one is no text of it. -/
  | unkept {first : DateFormat} (hnone : field.keepingFormat? t = none)
      (hfirst : field.dateFormats.head? = some first)
      (hread : field.dateFormats.findSome? (·.read? (first.text t)) ≠ some t)

variable {field : Field} {t : Instant}

theorem keepingFormat?_eq_some {format : DateFormat} (h : field.keepingFormat? t = some format) :
    format ∈ field.dateFormats ∧ format.Keeps t := by
  unfold keepingFormat? at h
  exact ⟨List.mem_of_find?_eq_some h, by simpa using List.find?_some h⟩

theorem of_mem_formatsBefore {format : DateFormat} (h : format ∈ field.formatsBefore t) :
    format ∈ field.dateFormats ∧ ¬format.Keeps t := by
  refine ⟨(List.takeWhile_sublist _).subset h, ?_⟩
  simpa using List.all_eq_true.mp List.all_takeWhile format h

theorem losslessForm?_eq (format : DateFormat) (t : Instant) :
    losslessForm? format t = if format.Keeps t then some (format.write t) else none := rfl

theorem storedForm?_eq (field : Field) (t : Instant) :
    field.storedForm? t =
      ((field.keepingFormat? t) <|> field.dateFormats.head?).map (·.write t) := by
  have hlossless : field.dateFormats.findSome? (losslessForm? · t) =
      (field.keepingFormat? t).map (·.write t) := by
    unfold keepingFormat?
    induction field.dateFormats with
    | nil => rfl
    | cons format rest ih =>
      by_cases hkeeps : format.Keeps t
      · rw [List.findSome?_cons_of_isSome (by rw [losslessForm?_eq, if_pos hkeeps]; rfl)]
        simp [losslessForm?_eq, hkeeps]
      · rw [List.findSome?_cons, losslessForm?_eq, if_neg hkeeps, ih,
          List.find?_cons_of_neg (by simpa using hkeeps)]
  unfold storedForm?
  rw [hlossless]
  cases field.keepingFormat? t <;> rfl

/-- Where a format keeps the instant, the formats before it are asked first and then this one. -/
theorem findSome?_keepingFormat {format : DateFormat} (h : field.keepingFormat? t = some format) :
    field.dateFormats.findSome? (·.read? (format.text t)) =
      ((field.formatsBefore t).findSome? (·.read? (format.text t)) <|> some t) := by
  obtain ⟨hkeeps, before, after, hsplit, hbefore⟩ := List.find?_eq_some_iff_append.mp h
  have hread : format.read? (format.text t) = some t := of_decide_eq_true hkeeps
  have htake : field.formatsBefore t = before := by
    unfold formatsBefore
    rw [hsplit, List.takeWhile_append_of_pos hbefore]
    simp [of_decide_eq_true hkeeps]
  rw [htake, hsplit, List.findSome?_append, List.findSome?_cons, hread]
  cases before.findSome? (·.read? (format.text t)) <;> rfl

theorem readDate?_storedForm_iff (hformats : field.dateFormats ≠ []) {stored : Json}
    (h : field.storedForm? t = some stored) :
    Scalar.readDate? field.dateFormats stored = some t ↔ ¬field.Misreads t := by
  rw [storedForm?_eq] at h
  cases hkeeping : field.keepingFormat? t with
  | some format =>
    rw [hkeeping] at h
    cases h
    rw [DateFormat.readDate?_write, findSome?_keepingFormat hkeeping]
    constructor
    · rintro hread (⟨hformat, hother, hne⟩ | ⟨hnone, -, -⟩)
      · cases hkeeping.symm.trans hformat
        rw [hother] at hread
        exact hne (Option.some.inj hread)
      · rw [hkeeping] at hnone
        cases hnone
    · intro hsafe
      cases hother : (field.formatsBefore t).findSome? (·.read? (format.text t)) with
      | none => rfl
      | some other =>
        by_contra hne
        exact hsafe (.intercepted hkeeping hother fun heq => hne (congrArg some heq))
  | none =>
    obtain ⟨first, rest, hfirst⟩ := List.exists_cons_of_ne_nil hformats
    have hhead : field.dateFormats.head? = some first := by rw [hfirst]; rfl
    rw [hkeeping, hhead] at h
    cases h
    rw [DateFormat.readDate?_write]
    constructor
    · rintro hread (⟨hformat, -, -⟩ | ⟨-, hhead', hmisread⟩)
      · rw [hkeeping] at hformat
        cases hformat
      · cases hhead.symm.trans hhead'
        exact hmisread hread
    · intro hsafe
      by_contra hne
      exact hsafe (.unkept hkeeping hhead hne)

/-- Nothing comes before the first format, so an instant that it keeps is not misread. -/
theorem not_misreads_of_head_keeps {first : DateFormat}
    (hfirst : field.dateFormats.head? = some first) (hkeeps : first.Keeps t) :
    ¬field.Misreads t := by
  obtain ⟨rest, hsplit⟩ : ∃ rest, field.dateFormats = first :: rest :=
    List.head?_eq_some_iff.mp hfirst
  have hkeeping : field.keepingFormat? t = some first := by
    simp [keepingFormat?, hsplit, hkeeps]
  have hbefore : field.formatsBefore t = [] := by
    rw [formatsBefore, hsplit]
    simp [hkeeps]
  rintro (⟨-, hother, -⟩ | ⟨hnone, -, -⟩)
  · rw [hbefore] at hother
    cases hother
  · rw [hkeeping] at hnone
    cases hnone

/-- Timestamps and numbers of one unit are not taken for each other: no number is written where a
timestamp would keep the instant, and no timestamp is a number. -/
theorem not_misreads_of_one_unit {unit : EpochUnit}
    (hformats : ∀ format ∈ field.dateFormats,
      format.shape = .timestamp ∨ format.unit? = some unit)
    (hread : ∃ format ∈ field.dateFormats, ∃ s, format.read? s = some t)
    (hyear : 0 ≤ t.date.year) (hlast : t.date.year ≤ 9999) : ¬field.Misreads t := by
  obtain ⟨reader, hreader, s, hs⟩ := hread
  have ht := DateFormat.read?_isRepresented hs
  have hkept : reader.Keeps t := by
    rcases hformats reader hreader with hshape | hunit
    · exact DateFormat.keeps_of_timestamp hshape ht hyear hlast
    · rw [DateFormat.read?_of_unit hunit] at hs
      obtain ⟨n, -, hn⟩ := Option.bind_eq_some_iff.mp hs
      exact (DateFormat.keeps_of_unit_iff hunit ht).mpr (EpochUnit.isWhole_of_instant? hn)
  rintro (⟨hformat, hother, -⟩ | ⟨hnone, -, -⟩)
  · rename_i format other
    obtain ⟨earlier, hearlier, htaken⟩ := List.exists_of_findSome?_eq_some hother
    obtain ⟨hmem, hlost⟩ := of_mem_formatsBefore hearlier
    obtain ⟨hformatMem, hkeeps⟩ := keepingFormat?_eq_some hformat
    -- The earlier format counts units that the instant is no whole number of.
    rcases hformats earlier hmem with hshape | hearlierUnit
    · exact hlost (DateFormat.keeps_of_timestamp hshape ht hyear hlast)
    · rw [DateFormat.keeps_of_unit_iff hearlierUnit ht] at hlost
      rcases hformats format hformatMem with hshape | hunit
      · rw [DateFormat.text_of_timestamp hshape, DateFormat.read?_of_unit hearlierUnit,
          Instant.trim_offsetText hyear hlast, Instant.readInt64?_offsetText hyear hlast] at htaken
        cases htaken
      · exact hlost ((DateFormat.keeps_of_unit_iff hunit ht).mp hkeeps)
  · exact List.find?_eq_none.mp hnone reader hreader (decide_eq_true hkept)

theorem storedDate_json (hformats : field.dateFormats ≠ []) {variant : Variant}
    (hkind : variant.kind = .date) (ht : t.IsRepresented) :
    field.storedForm? t = some (field.storedDate variant t).json := by
  obtain ⟨format, -, hstored⟩ := storedForm?_eq_some hformats t
  obtain ⟨value, hvalue, hjson⟩ := format.exists_scalar_write ht
  have hscalar : field.storedDate variant t = value := by
    simp [storedDate, hkind, hstored, hvalue]
  rw [hstored, hscalar, hjson]

end Field

namespace Rule

variable {field : Field} {t : Instant} {value : Json}

theorem ofValue_of_readDate? (hdate : field.type = .date)
    (hvalue : Scalar.readDate? field.dateFormats value = some t) :
    Operand.ofValue field .equals value = .ok (.single (.date t)) := by
  have hfield : Scalar.ofField field value = .ok (.date t) := by
    simp only [Scalar.ofField, hdate, hvalue]
  cases value with
  | str s => simp only [Operand.ofValue, Scalar.single, hfield]; rfl
  | num n => simp only [Operand.ofValue, Scalar.single, hfield]; rfl
  | _ => cases hvalue

/-- A rule that a date field equals a value becomes a term for the instant that the value denotes,
and the term denotes this instant again exactly when the field does not misread it. The field does
not where the year has four digits and all formats are timestamps or count one and the same unit,
nor where the first format is a timestamp or counts a unit and the instant is one it can write. -/
theorem date_equality_iff {source : Json} {mapping : Mapping} {version : Nat} {rule : Rule}
    (hkeys : source.KeysDistinct) (hread : Mapping.ofJson source = .ok mapping)
    (hfield : (Catalog.ofMapping mapping version).lookup? rule.field = some field)
    (hdate : field.type = .date) (hop : Operator.ofText? rule.operator = some .equals)
    (hvalue : Scalar.readDate? field.dateFormats rule.value = some t) :
    (∃ checked stored, check (Catalog.ofMapping mapping version) rule = .ok checked ∧
      QueryTree.ofRule checked =
        .ok (let term := QueryTree.leafOn field field.rootVariant (.term stored)
          if rule.isNegated then .not term else term) ∧
      (Scalar.readDate? field.dateFormats stored.json = some t ↔ ¬field.Misreads t)) ∧
    (0 ≤ t.date.year → t.date.year ≤ 9999 → ∀ unit,
      (∀ format ∈ field.dateFormats, format.shape = .timestamp ∨ format.unit? = some unit) →
        ¬field.Misreads t) ∧
    ∀ first, field.dateFormats.head? = some first →
      (first.shape = .timestamp ∧ 0 ≤ t.date.year ∧ t.date.year ≤ 9999 ∨
        ∃ unit, first.unit? = some unit ∧ unit.IsWhole t) → ¬field.Misreads t := by
  have hf := Catalog.lookup?_wellFormed hkeys hread hfield
  have hformats := hf.dateFormats_iff.mpr hdate
  have hkind : field.rootVariant.kind = .date := by
    rw [hf.root_kind, hdate]
    rfl
  obtain ⟨format, hformat, s, htext⟩ := Scalar.readDate?_eq_some hvalue
  have ht := DateFormat.read?_isRepresented htext
  have hlegal : Operator.equals.isLegalFor field.type = true := by
    rw [hdate]
    rfl
  refine ⟨⟨{ field, operator := .equals, operand := .single (.date t), isNegated := rule.isNegated },
    field.storedDate field.rootVariant t, ?_, ?_, ?_⟩, ?_, ?_⟩
  · simp only [check, hfield, hop, hlegal, ofValue_of_readDate? hdate hvalue]
    rfl
  · simp only [QueryTree.ofRule, QueryTree.positive?, QueryTree.equality?,
      hf.dateVariant?_eq hdate]
    rfl
  · exact Field.readDate?_storedForm_iff hformats (Field.storedDate_json hformats hkind ht)
  · intro hyear hlast unit hall
    exact Field.not_misreads_of_one_unit hall ⟨format, hformat, s, htext⟩ hyear hlast
  · intro first hfirst hexact
    refine Field.not_misreads_of_head_keeps hfirst ?_
    rcases hexact with ⟨hshape, hyear, hlast⟩ | ⟨unit, hunit, hwhole⟩
    · exact DateFormat.keeps_of_timestamp hshape ht hyear hlast
    · exact (DateFormat.keeps_of_unit_iff hunit ht).mpr hwhole

/-- A date field that counts in seconds before it counts in milliseconds. -/
def countedSource : Json :=
  .obj [("properties", .obj [("made", .obj [("type", .str "date"),
    ("format", .str "epoch_second||epoch_millis||strict_date_optional_time")])])]

def countedField : Field where
  name := "made"
  type := .date
  rootVariant := .root "made" .date none
  otherVariants := []
  dateFormats :=
    [⟨"epoch_second", .epochSeconds⟩, ⟨"epoch_millis", .epochMillis⟩,
      ⟨"strict_date_optional_time", .timestamp⟩]

def countedMapping : Mapping where
  fields := [countedField]
  defaultColumns := []
  versionTag := none

theorem ofJson_countedSource : Mapping.ofJson countedSource = .ok countedMapping := by
  decide +kernel

def countedRule : Rule where
  field := "made"
  operator := "="
  value := .str "2024-03-01T00:00:00.123Z"

/-- The number of milliseconds is read as one of seconds, tens of thousands of years later. -/
theorem countedRule_misread :
    ∃ checked stored,
      check (Catalog.ofMapping countedMapping 1) countedRule = .ok checked ∧
      QueryTree.ofRule checked =
        .ok (QueryTree.leafOn countedField countedField.rootVariant (.term stored)) ∧
      Scalar.readDate? countedField.dateFormats countedRule.value =
        some ⟨1709251200, 123000000⟩ ∧
      Scalar.readDate? countedField.dateFormats stored.json ≠
        some ⟨1709251200, 123000000⟩ := by
  have hkeys : countedSource.KeysDistinct := by decide
  have hvalue : Scalar.readDate? countedField.dateFormats countedRule.value =
      some ⟨1709251200, 123000000⟩ := by decide +kernel
  obtain ⟨⟨checked, stored, hchecked, htree, hstored⟩, -, -⟩ :=
    @date_equality_iff countedField _ countedSource countedMapping 1 countedRule hkeys
      ofJson_countedSource rfl rfl (by decide +kernel) hvalue
  have hkeeping : countedField.keepingFormat? ⟨1709251200, 123000000⟩ =
      some ⟨"epoch_millis", .epochMillis⟩ := by decide +kernel
  have hother : (countedField.formatsBefore ⟨1709251200, 123000000⟩).findSome?
      (·.read? (DateFormat.text ⟨"epoch_millis", .epochMillis⟩ ⟨1709251200, 123000000⟩)) =
        some ⟨1709251200123, 0⟩ := by decide +kernel
  have hmisread : countedField.Misreads ⟨1709251200, 123000000⟩ :=
    .intercepted hkeeping hother (by decide)
  exact ⟨checked, stored, hchecked, htree, hvalue, fun heq => hstored.mp heq hmisread⟩

end Rule

end ReportSearch
