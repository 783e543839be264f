import ReportSearch.Proofs.Rule.Operand
import ReportSearch.Proofs.Time.Reading
import ReportSearch.Query.OfRules

/-!
# Values and the variants that store them

Which values a variant of each kind stores. A date is put into a form that fits the variant, and
every other value that suits its field fits the first variant that keeps values as they are, but for
a text: the root of a text field keeps no values, and the first variant to do so may be one of
numbers or of truth values.
-/

set_option autoImplicit false

namespace ReportSearch

/-- Whether a variant of a kind stores values of this form. -/
def Scalar.Fits (formats : List DateFormat) : VariantKind → Scalar → Prop
  | .exact, .text _ => True
  | .numeric, .integer _ => True
  | .numeric, .double _ => True
  | .boolean, .boolean _ => True
  | .epoch _, .integer _ => True
  | .date, .text _ => True
  | .date, .integer _ => ∃ format ∈ formats, format.isEpoch = true
  | _, _ => False

theorem Scalar.Suits.fits_rootKind {field : Field} {value : Scalar} (h : value.Suits field)
    (hdate : field.type ≠ .date) (hstring : field.type ≠ .string) :
    field.type.rootKind.isVerbatim = true ∧ value.Fits field.dateFormats field.type.rootKind := by
  cases value with
  | text s =>
    rw [Or.resolve_left h hstring]
    exact ⟨rfl, trivial⟩
  | integer i =>
    rcases h with h | h
    · rw [h]
      exact ⟨rfl, trivial⟩
    · rw [h]
      exact ⟨rfl, trivial⟩
  | double x =>
    rw [show field.type = .double from h]
    exact ⟨rfl, trivial⟩
  | boolean b =>
    rw [show field.type = .boolean from h]
    exact ⟨rfl, trivial⟩
  | date t => exact absurd h.1 hdate

namespace DateFormat

theorem ofJson?_write {t : Instant} (ht : t.IsRepresented) (format : DateFormat) :
    (∃ s, Scalar.ofJson? (format.write t) = some (.text s)) ∨
      format.isEpoch = true ∧ ∃ i, Scalar.ofJson? (format.write t) = some (.integer i) := by
  have hint : ∀ i, Number.isInt64 i = true → Scalar.ofJson? (.ofInt i) = some (.integer i) := by
    intro i hi
    simp [Scalar.ofJson?, Json.ofInt, Number.int64?, hi]
  obtain ⟨pattern, shape⟩ := format
  cases shape with
  | epochSeconds => exact Or.inr ⟨rfl, _, hint _ (EpochUnit.isInt64_number ht .seconds)⟩
  | epochMillis => exact Or.inr ⟨rfl, _, hint _ (EpochUnit.isInt64_number ht .millis)⟩
  | timestamp => exact Or.inl ⟨_, rfl⟩
  | layout template hasTime hasOffset => exact Or.inl ⟨_, rfl⟩

end DateFormat

namespace Field

variable {field : Field}

theorem losslessForm?_eq_some {format : DateFormat} {t : Instant} {stored : Json}
    (h : losslessForm? format t = some stored) : stored = format.write t := by
  obtain ⟨-, hwritten⟩ := Option.ite_none_right_eq_some.mp h
  exact (Option.some.inj hwritten).symm

theorem storedForm?_eq_some (hformats : field.dateFormats ≠ []) (t : Instant) :
    ∃ format ∈ field.dateFormats, field.storedForm? t = some (format.write t) := by
  unfold storedForm?
  cases hfound : field.dateFormats.findSome? (losslessForm? · t) with
  | some stored =>
    obtain ⟨format, hformat, hlossless⟩ := List.exists_of_findSome?_eq_some hfound
    exact ⟨format, hformat, by rw [losslessForm?_eq_some hlossless]; rfl⟩
  | none =>
    obtain ⟨first, rest, hfirst⟩ := List.exists_cons_of_ne_nil hformats
    refine ⟨first, by rw [hfirst]; exact List.mem_cons_self, ?_⟩
    rw [hfirst]
    rfl

theorem storedDate_fits (hf : field.WellFormed) (hdate : field.type = .date) {variant : Variant}
    (hkind : variant.kind = .date ∨ variant.kind.isEpoch = true) {t : Instant} (ht : t.IsRepresented) :
    (field.storedDate variant t).Fits field.dateFormats variant.kind := by
  rcases hkind with hkind | hkind
  · obtain ⟨format, hformat, hstored⟩ := storedForm?_eq_some (hf.dateFormats_iff.mpr hdate) t
    have hscalar : field.storedDate variant t =
        (Scalar.ofJson? (format.write t)).getD (.date t) := by
      simp [storedDate, hkind, hstored]
    rw [hscalar, hkind]
    rcases format.ofJson?_write ht with ⟨s, hs⟩ | ⟨hepoch, i, hi⟩
    · rw [hs]
      trivial
    · rw [hi]
      exact ⟨format, hformat, hepoch⟩
  · unfold storedDate
    cases h : variant.kind with
    | epoch unit => trivial
    | _ =>
      rw [h] at hkind
      cases hkind

theorem rangeOperand?_eq {value : Scalar} (hvalue : ∀ t, value ≠ .date t) :
    field.rangeOperand? value = field.numericVariant?.map fun variant => (variant, value) := by
  cases value with
  | date t => exact absurd rfl (hvalue t)
  | _ => rfl

theorem comparedVariant_mem (field : Field) : field.comparedVariant ∈ field.variants := by
  unfold comparedVariant
  cases h : field.verbatimVariant? with
  | none => exact List.mem_cons_self
  | some variant => exact List.mem_of_find?_eq_some h

theorem WellFormed.comparedVariant_eq (hf : field.WellFormed)
    (hkind : field.type.rootKind.isVerbatim = true) :
    field.comparedVariant = field.rootVariant := by
  rw [comparedVariant, hf.verbatimVariant?_eq hkind]
  rfl

/-- What keeps the values of a text field is anything but numbers of units of time. -/
theorem WellFormed.comparedVariant_kind (hf : field.WellFormed) (ht : field.type = .string)
    (hkind : field.comparedVariant.kind ≠ .analyzed) :
    field.comparedVariant.kind.isVerbatim = true ∧
      field.comparedVariant.kind.isEpoch = false := by
  constructor
  · unfold comparedVariant at hkind ⊢
    cases h : field.verbatimVariant? with
    | none =>
      rw [h, Option.getD_none, hf.root_kind, ht] at hkind
      exact absurd rfl hkind
    | some variant =>
      unfold verbatimVariant? at h
      have hverbatim := List.find?_some h
      exact hverbatim
  · by_contra hepoch
    have hdate := hf.date_of_epoch _ field.comparedVariant_mem (eq_true_of_ne_false hepoch)
    rw [ht] at hdate
    cases hdate

/-- A value that suits a field fits the variant that it is compared by, but for a text that is
compared as a number or a truth value. -/
theorem fits_comparedVariant_iff (hf : field.WellFormed) {value : Scalar}
    (hsuits : value.Suits field) (hdate : field.type ≠ .date)
    (hkind : field.comparedVariant.kind ≠ .analyzed) :
    value.Fits field.dateFormats field.comparedVariant.kind ↔ ¬(field.type = .string ∧
      (field.comparedVariant.kind = .numeric ∨ field.comparedVariant.kind = .boolean)) := by
  by_cases ht : field.type = .string
  · obtain ⟨hverbatim, hepoch⟩ := hf.comparedVariant_kind ht hkind
    cases value with
    | text s =>
      simp only [ht, true_and]
      cases h : field.comparedVariant.kind with
      | exact => simp [Scalar.Fits]
      | numeric => simp [Scalar.Fits]
      | boolean => simp [Scalar.Fits]
      | date => simp [Scalar.Fits]
      | analyzed => exact absurd h hkind
      | epoch unit => simp [h, VariantKind.isEpoch] at hepoch
      | object => simp [h, VariantKind.isVerbatim] at hverbatim
    | _ => simp [Scalar.Suits, ht] at hsuits
  · have hroot := hsuits.fits_rootKind hdate ht
    rw [hf.comparedVariant_eq hroot.1, hf.root_kind]
    exact ⟨fun _ h => ht h.1, fun _ => hroot.2⟩

end Field

end ReportSearch
