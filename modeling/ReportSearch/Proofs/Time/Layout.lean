import ReportSearch.Proofs.Time.Timestamp

/-!
# Layout texts and the texts they write

The source text of layout items is split into the same items again, a percent sign among the
literals included. The parts of a date are written in letters, digits and four signs, so that no
part has a blank or a quote, and every part but a fraction has at least one character.
-/

set_option autoImplicit false

namespace ReportSearch.Layout

open Text

/-- An item that stands for something, with the blank characters among the blanks. -/
def Item.IsProper : Item → Prop
  | .literal c => isBlank c = false
  | .blank c => isBlank c = true
  | .part _ => True
  | .invalid => False

theorem isProper_literalItem (c : Char) : (literalItem c).IsProper := by
  unfold literalItem
  split
  · assumption
  · rename_i h
    exact eq_false_of_ne_true h

theorem source_literal {c : Char} (hc : c ≠ '%') : (Item.literal c).source = [c] := by
  rw [Item.source]
  exact hc

/-- The rules by which layout texts are split. They tell how every text without unknown letters is
split, whatever becomes of the others. -/
structure Splits (split : List Char → List Item) : Prop where
  nil : split [] = []
  percent : ∀ cs, split ('%' :: '%' :: cs) = .literal '%' :: split cs
  part : ∀ (f : Part) cs, split ('%' :: (f.code ++ cs)) = .part f :: split cs
  plain : ∀ {c}, c ≠ '%' → ∀ cs, split (c :: cs) = literalItem c :: split cs

theorem items_splits : Splits items where
  nil := rfl
  percent cs := rfl
  part f cs := by cases f <;> rfl
  plain hc cs := by
    rw [items]
    all_goals intros
    all_goals simp_all

namespace Splits

variable {split : List Char → List Item}

theorem split_item_source (hsplit : Splits split) {item : Item} (hitem : item.IsProper)
    (cs : List Char) : split (item.source ++ cs) = item :: split cs := by
  cases item with
  | literal c =>
    by_cases hc : c = '%'
    · subst hc
      exact hsplit.percent cs
    · have hblank : isBlank c = false := hitem
      rw [source_literal hc, List.singleton_append, hsplit.plain hc, literalItem, hblank]
      rfl
  | blank c =>
    have hc : c ≠ '%' := by
      rintro rfl
      cases (hitem : isBlank '%' = true)
    have hblank : isBlank c = true := hitem
    rw [Item.source, List.singleton_append, hsplit.plain hc, literalItem, hblank]
    rfl
  | part f => exact hsplit.part f cs
  | invalid => exact hitem.elim

theorem split_flatMap_source (hsplit : Splits split) {layout : List Item}
    (h : ∀ item ∈ layout, item.IsProper) : split (layout.flatMap Item.source) = layout := by
  induction layout with
  | nil => exact hsplit.nil
  | cons item layout ih =>
    rw [List.flatMap_cons, hsplit.split_item_source (h item List.mem_cons_self),
      ih fun other hother => h other (List.mem_cons_of_mem item hother)]

end Splits

theorem items_flatMap_source {layout : List Item} (h : ∀ item ∈ layout, item.IsProper) :
    items (layout.flatMap Item.source) = layout :=
  items_splits.split_flatMap_source h

/-- The characters that dates, times and offsets are written in. -/
def isStampChar (c : Char) : Bool := c.isAlphanum || c = '+' || c = '-' || c = '.' || c = ':'

theorem isBlank_of_isAlpha {c : Char} (h : c.isAlpha = true) : isBlank c = false := by
  have hrange : 65 ≤ c.toNat ∧ c.toNat ≤ 90 ∨ 97 ≤ c.toNat ∧ c.toNat ≤ 122 := by
    delta Char.isAlpha Char.isUpper Char.isLower at h
    simpa [UInt32.le_iff_toNat_le] using h
  simp only [isBlank, Bool.or_eq_false_iff, Bool.and_eq_false_iff, decide_eq_false_iff_not]
  omega

theorem isBlank_of_isStampChar {c : Char} (h : isStampChar c = true) : isBlank c = false := by
  simp only [isStampChar, Char.isAlphanum, Bool.or_eq_true, decide_eq_true_eq] at h
  rcases h with ((((h | h) | rfl) | rfl) | rfl) | rfl
  · exact isBlank_of_isAlpha h
  · exact isBlank_of_isDigit h
  all_goals rfl

theorem isStampChar_of_isDigit {c : Char} (h : c.isDigit = true) : isStampChar c = true := by
  simp [isStampChar, Char.isAlphanum, h]

variable {c : Char} {t : Instant}

theorem isStampChar_of_mem_padded {width n : Nat} (h : c ∈ padded width n) :
    isStampChar c = true :=
  isStampChar_of_isDigit (isDigit_of_mem_padded h)

theorem isStampChar_of_mem_yearText {year : Int} (h : c ∈ yearText year) :
    isStampChar c = true := by
  unfold yearText at h
  split at h
  · exact isStampChar_of_mem_padded h
  · rcases List.mem_cons.mp h with rfl | h
    · split <;> rfl
    · exact isStampChar_of_mem_padded h

theorem isStampChar_of_mem_fractionText {nanos : Nat} (h : c ∈ fractionText nanos) :
    isStampChar c = true := by
  have hcons : ∀ {width n : Nat}, c ∈ '.' :: padded width n → isStampChar c = true := by
    intro width n h
    rcases List.mem_cons.mp h with rfl | h
    · rfl
    · exact isStampChar_of_mem_padded h
  unfold fractionText at h
  split at h
  · cases h
  · split at h
    · exact hcons h
    · split at h
      · exact hcons h
      · exact hcons h

theorem isStampChar_of_mem_name {names : List (List Char)} {place : Nat}
    (hnames : names.all (·.all isStampChar) = true) (h : c ∈ names.getD place []) :
    isStampChar c = true := by
  rw [List.getD_eq_getElem?_getD] at h
  cases hname : names[place]? with
  | none =>
    rw [hname] at h
    cases h
  | some name =>
    rw [hname] at h
    have hchars := List.all_eq_true.mp hnames name (List.mem_of_getElem? hname)
    exact List.all_eq_true.mp hchars c h

theorem isStampChar_of_mem_renderField {f : Part} (h : c ∈ renderField t f) :
    isStampChar c = true := by
  have hmonths : monthNames.all (·.all isStampChar) = true := by decide +kernel
  have hdays : weekdayNames.all (·.all isStampChar) = true := by decide +kernel
  cases f with
  | year => exact isStampChar_of_mem_yearText h
  | fraction => exact isStampChar_of_mem_fractionText h
  | monthShortName => exact isStampChar_of_mem_name hmonths (List.mem_of_mem_take h)
  | monthName => exact isStampChar_of_mem_name hmonths h
  | weekdayShortName => exact isStampChar_of_mem_name hdays (List.mem_of_mem_take h)
  | weekdayName => exact isStampChar_of_mem_name hdays h
  | halfOfDay =>
    have hmorning : ['A', 'M'].all isStampChar = true := by decide
    have hevening : ['P', 'M'].all isStampChar = true := by decide
    simp only [renderField] at h
    split at h
    · exact List.all_eq_true.mp hmorning c h
    · exact List.all_eq_true.mp hevening c h
  | offset =>
    have hoffset : ['+', '0', '0', '0', '0'].all isStampChar = true := by decide
    exact List.all_eq_true.mp hoffset c h
  | offsetColon =>
    have hoffset : ['+', '0', '0', ':', '0', '0'].all isStampChar = true := by decide
    exact List.all_eq_true.mp hoffset c h
  | yearOfCentury | month | day | dayOfYear | hour | hourOfHalf | minute | second | nanos =>
    exact isStampChar_of_mem_padded h

theorem padded_ne_nil (width n : Nat) : padded width n ≠ [] := by
  rw [padded, Nat.toString_eq_ofList_toDigits, String.toList_ofList]
  exact List.append_ne_nil_of_right_ne_nil _ Nat.toDigits_ne_nil

theorem yearText_ne_nil (year : Int) : yearText year ≠ [] := by
  unfold yearText
  split
  · exact padded_ne_nil 4 _
  · exact List.cons_ne_nil _ _

theorem name_ne_nil {names : List (List Char)} {place : Nat} (hplace : place < names.length)
    (hnames : ∀ name ∈ names, 3 ≤ name.length) :
    names.getD place [] ≠ [] ∧ (names.getD place []).take 3 ≠ [] := by
  rw [List.getD_eq_getElem?_getD, List.getElem?_eq_getElem hplace, Option.getD_some]
  have hthree := hnames _ (List.getElem_mem hplace)
  refine ⟨?_, ?_⟩
  · apply List.ne_nil_of_length_pos
    omega
  · apply List.ne_nil_of_length_pos
    rw [List.length_take]
    omega

theorem renderField_ne_nil {f : Part} (hf : f ≠ .fraction) : renderField t f ≠ [] := by
  have hmonth : t.date.month - 1 < monthNames.length := by
    obtain ⟨hone, htwelve, -⟩ := t.date_isValid
    have hlength : monthNames.length = 12 := by decide
    omega
  have hday : t.date.weekday < weekdayNames.length := by
    have hlength : weekdayNames.length = 7 := by decide
    rw [Date.weekday]
    omega
  have hmonths : ∀ name ∈ monthNames, 3 ≤ name.length := by decide +kernel
  have hdays : ∀ name ∈ weekdayNames, 3 ≤ name.length := by decide +kernel
  cases f with
  | year => exact yearText_ne_nil _
  | fraction => exact absurd rfl hf
  | monthShortName => exact (name_ne_nil hmonth hmonths).2
  | monthName => exact (name_ne_nil hmonth hmonths).1
  | weekdayShortName => exact (name_ne_nil hday hdays).2
  | weekdayName => exact (name_ne_nil hday hdays).1
  | halfOfDay =>
    simp only [renderField]
    split <;> exact List.cons_ne_nil _ _
  | offset | offsetColon => exact List.cons_ne_nil _ _
  | yearOfCentury | month | day | dayOfYear | hour | hourOfHalf | minute | second | nanos =>
    exact padded_ne_nil _ _

@[simp] theorem renderItems_nil (t : Instant) : renderItems t [] = [] := rfl

@[simp] theorem renderItems_append (t : Instant) (before after : List Item) :
    renderItems t (before ++ after) = renderItems t before ++ renderItems t after :=
  List.flatMap_append

@[simp] theorem renderItems_cons (t : Instant) (item : Item) (after : List Item) :
    renderItems t (item :: after) = renderItem t item ++ renderItems t after :=
  List.flatMap_cons

theorem renderItem_literalItem (t : Instant) (c : Char) : renderItem t (literalItem c) = [c] := by
  unfold literalItem
  split <;> rfl

theorem renderItems_literalItem (t : Instant) (cs : List Char) :
    renderItems t (cs.map literalItem) = cs := by
  induction cs with
  | nil => rfl
  | cons c cs ih =>
    rw [List.map_cons, renderItems_cons, ih, renderItem_literalItem]
    rfl

end ReportSearch.Layout
