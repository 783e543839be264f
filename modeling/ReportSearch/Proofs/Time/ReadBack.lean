import Mathlib.Algebra.Group.Nat.Defs
import ReportSearch.Catalog.DateFormat
import ReportSearch.Proofs.Time.Layout

/-!
# Dates that are read back by their layout

What a layout writes for an instant is read by the same layout as that instant, whether its day is
written by month or by the day of the year, in digits or by name, and its hour on a dial of 24 or
of 12. There may be fewer or more blanks than were written. The layout has to name a day and a time
down to the second, and the year is one of four digits.
-/

set_option autoImplicit false

namespace ReportSearch

open Text Layout

namespace DateParts

/-- Every part that is known here is known there, with the same value. -/
structure Within (p q : DateParts) : Prop where
  year : ∀ x ∈ p.year, x ∈ q.year
  yearOfCentury : ∀ x ∈ p.yearOfCentury, x ∈ q.yearOfCentury
  month : ∀ x ∈ p.month, x ∈ q.month
  day : ∀ x ∈ p.day, x ∈ q.day
  dayOfYear : ∀ x ∈ p.dayOfYear, x ∈ q.dayOfYear
  weekday : ∀ x ∈ p.weekday, x ∈ q.weekday
  half : ∀ x ∈ p.half, x ∈ q.half
  hourOfHalf : ∀ x ∈ p.hourOfHalf, x ∈ q.hourOfHalf
  minute : ∀ x ∈ p.minute, x ∈ q.minute
  second : ∀ x ∈ p.second, x ∈ q.second
  nanos : ∀ x ∈ p.nanos, x ∈ q.nanos
  offset : ∀ x ∈ p.offset, x ∈ q.offset

variable {p q r : DateParts}

theorem Within.refl (p : DateParts) : p.Within p := by
  constructor <;> exact fun _ h => h

theorem Within.trans (hpq : p.Within q) (hqr : q.Within r) : p.Within r where
  year x h := hqr.year x (hpq.year x h)
  yearOfCentury x h := hqr.yearOfCentury x (hpq.yearOfCentury x h)
  month x h := hqr.month x (hpq.month x h)
  day x h := hqr.day x (hpq.day x h)
  dayOfYear x h := hqr.dayOfYear x (hpq.dayOfYear x h)
  weekday x h := hqr.weekday x (hpq.weekday x h)
  half x h := hqr.half x (hpq.half x h)
  hourOfHalf x h := hqr.hourOfHalf x (hpq.hourOfHalf x h)
  minute x h := hqr.minute x (hpq.minute x h)
  second x h := hqr.second x (hpq.second x h)
  nanos x h := hqr.nanos x (hpq.nanos x h)
  offset x h := hqr.offset x (hpq.offset x h)

theorem empty_within (p : DateParts) : Within {} p := by
  constructor <;> exact fun _ h => by cases h

/-- The parts of `q`, and those of `p` that `q` leaves open. -/
def merge (p q : DateParts) : DateParts where
  year := q.year <|> p.year
  yearOfCentury := q.yearOfCentury <|> p.yearOfCentury
  month := q.month <|> p.month
  day := q.day <|> p.day
  dayOfYear := q.dayOfYear <|> p.dayOfYear
  weekday := q.weekday <|> p.weekday
  half := q.half <|> p.half
  hourOfHalf := q.hourOfHalf <|> p.hourOfHalf
  minute := q.minute <|> p.minute
  second := q.second <|> p.second
  nanos := q.nanos <|> p.nanos
  offset := q.offset <|> p.offset

theorem forall_mem_orElse {α : Type} {a b c : Option α} (ha : ∀ x ∈ a, x ∈ c)
    (hb : ∀ x ∈ b, x ∈ c) : ∀ x ∈ (a <|> b), x ∈ c := by
  cases a with
  | none => exact hb
  | some y => exact ha

theorem mem_orElse_right {α : Type} {a b c : Option α} (ha : ∀ x ∈ a, x ∈ c)
    (hb : ∀ x ∈ b, x ∈ c) : ∀ x ∈ b, x ∈ (a <|> b) := by
  cases a with
  | none => exact fun _ h => h
  | some y =>
    intro x hx
    cases Option.mem_unique (ha y rfl) (hb x hx)
    rfl

theorem mem_orElse_left {α : Type} {a b : Option α} : ∀ x ∈ a, x ∈ (a <|> b) := by
  rintro x rfl
  rfl

theorem merge_within (hp : p.Within r) (hq : q.Within r) : (p.merge q).Within r where
  year := forall_mem_orElse hq.year hp.year
  yearOfCentury := forall_mem_orElse hq.yearOfCentury hp.yearOfCentury
  month := forall_mem_orElse hq.month hp.month
  day := forall_mem_orElse hq.day hp.day
  dayOfYear := forall_mem_orElse hq.dayOfYear hp.dayOfYear
  weekday := forall_mem_orElse hq.weekday hp.weekday
  half := forall_mem_orElse hq.half hp.half
  hourOfHalf := forall_mem_orElse hq.hourOfHalf hp.hourOfHalf
  minute := forall_mem_orElse hq.minute hp.minute
  second := forall_mem_orElse hq.second hp.second
  nanos := forall_mem_orElse hq.nanos hp.nanos
  offset := forall_mem_orElse hq.offset hp.offset

theorem within_merge_left (hp : p.Within r) (hq : q.Within r) : p.Within (p.merge q) where
  year := mem_orElse_right hq.year hp.year
  yearOfCentury := mem_orElse_right hq.yearOfCentury hp.yearOfCentury
  month := mem_orElse_right hq.month hp.month
  day := mem_orElse_right hq.day hp.day
  dayOfYear := mem_orElse_right hq.dayOfYear hp.dayOfYear
  weekday := mem_orElse_right hq.weekday hp.weekday
  half := mem_orElse_right hq.half hp.half
  hourOfHalf := mem_orElse_right hq.hourOfHalf hp.hourOfHalf
  minute := mem_orElse_right hq.minute hp.minute
  second := mem_orElse_right hq.second hp.second
  nanos := mem_orElse_right hq.nanos hp.nanos
  offset := mem_orElse_right hq.offset hp.offset

theorem within_merge_right : q.Within (p.merge q) := by
  constructor <;> exact mem_orElse_left

theorem agree_eq {α : Type} [DecidableEq α] {held : Option α} {value : α}
    (h : ∀ x ∈ held, x ∈ some value) : agree held value = some (some value) := by
  cases held with
  | none => rfl
  | some x =>
    cases h x rfl
    exact if_pos rfl

theorem agreeWithin_eq {held : Option Nat} {least greatest value : Nat} (hleast : least ≤ value)
    (hgreatest : value ≤ greatest) (h : ∀ x ∈ held, x ∈ some value) :
    agreeWithin least greatest held value = some (some value) := by
  rw [agreeWithin, if_pos ⟨hleast, hgreatest⟩, agree_eq h]

end DateParts

namespace Instant

/-- Every part of an instant that a layout can name, in universal time. -/
def allParts (t : Instant) : DateParts where
  year := some t.date.year
  yearOfCentury := some (t.date.year % 100).toNat
  month := some t.date.month
  day := some t.date.day
  dayOfYear := some t.date.dayOfYear
  weekday := some t.date.weekday
  half := some (t.hour / 12)
  hourOfHalf := some (t.hour % 12)
  minute := some t.minute
  second := some t.second
  nanos := some t.fraction
  offset := some 0

/-- The parts that a field of a layout gives. -/
def partsOf (t : Instant) : Part → DateParts
  | .year => { year := some t.date.year }
  | .yearOfCentury => { yearOfCentury := some (t.date.year % 100).toNat }
  | .month | .monthShortName | .monthName => { month := some t.date.month }
  | .day => { day := some t.date.day }
  | .dayOfYear => { dayOfYear := some t.date.dayOfYear }
  | .weekdayShortName | .weekdayName => { weekday := some t.date.weekday }
  | .hour => { half := some (t.hour / 12), hourOfHalf := some (t.hour % 12) }
  | .hourOfHalf => { hourOfHalf := some (t.hour % 12) }
  | .minute => { minute := some t.minute }
  | .second => { second := some t.second }
  | .halfOfDay => { half := some (t.hour / 12) }
  | .nanos | .fraction => { nanos := some t.fraction }
  | .offset | .offsetColon => { offset := some 0 }

variable {t : Instant} {f : Part} {p : DateParts}

theorem partsOf_within : (t.partsOf f).Within t.allParts := by
  cases f <;> constructor <;> intro x h <;> first | exact h | cases h

theorem dayOfYear_date (t : Instant) :
    t.date.dayOfYear = (t.date.dayNumber - Date.firstDay t.date.year).toNat + 1 := rfl

theorem dayOfYear_bounds (t : Instant) : 1 ≤ t.date.dayOfYear ∧ t.date.dayOfYear ≤ 366 := by
  obtain ⟨hfirst, hlast⟩ := t.date_isValid.dayNumber_bounds
  rw [Date.firstDay_succ] at hlast
  have hlength : Date.yearLength t.date.year ≤ 366 := by
    unfold Date.yearLength
    split <;> decide
  rw [dayOfYear_date]
  omega

theorem ofYearDay?_date (ht : t.IsRepresented) :
    Date.ofYearDay? t.date.year t.date.dayOfYear = some t.date := by
  obtain ⟨hfirst, hlast⟩ := t.date_isValid.dayNumber_bounds
  rw [Date.firstDay_succ] at hlast
  have hday : Date.firstDay t.date.year + (t.date.dayOfYear - 1 : Nat) = t.date.dayNumber := by
    rw [dayOfYear_date]
    omega
  have hlength : t.date.dayOfYear ≤ Date.yearLength t.date.year := by
    rw [dayOfYear_date]
    omega
  rw [Date.ofYearDay?, if_pos ⟨isYear_date ht, t.dayOfYear_bounds.1, hlength⟩, ← Date.firstDay,
    hday, date, Date.dayNumber_ofDayNumber]

theorem ofYearMonthDay?_date (ht : t.IsRepresented) :
    Date.ofYearMonthDay? t.date.year t.date.month t.date.day = some t.date := by
  obtain ⟨hone, hmonth, hday, hlength⟩ := t.date_isValid
  rw [Date.ofYearMonthDay?, if_pos ⟨isYear_date ht, hone, hmonth, hday, hlength⟩]

end Instant

namespace Layout

/-- The fields that are written as a number of a fixed width. -/
def Part.isNumber : Part → Bool
  | .yearOfCentury | .month | .day | .dayOfYear | .hour | .hourOfHalf | .minute | .second => true
  | .nanos => true
  | _ => false

/-- The number that such a field is written for. -/
def fieldNumber (t : Instant) : Part → Nat
  | .yearOfCentury => (t.date.year % 100).toNat
  | .month => t.date.month
  | .day => t.date.day
  | .dayOfYear => t.date.dayOfYear
  | .hour => t.hour
  | .hourOfHalf => hourOfHalf t.hour
  | .minute => t.minute
  | .second => t.second
  | .nanos => t.fraction
  | _ => 0

variable {t : Instant} {f : Part} {p : DateParts}

theorem renderField_number (hf : f.isNumber = true) :
    renderField t f = padded f.width (fieldNumber t f) := by
  cases f <;> first | (cases hf; done) | rfl

theorem hourOfHalf_bounds (hour : Nat) :
    1 ≤ hourOfHalf hour ∧ hourOfHalf hour ≤ 12 ∧ hourOfHalf hour % 12 = hour % 12 := by
  unfold hourOfHalf
  split
  · omega
  · omega

theorem fieldNumber_lt (ht : t.IsRepresented) (hf : f.isNumber = true) :
    fieldNumber t f < 10 ^ f.width := by
  obtain ⟨hone, hmonth, hday, hlength⟩ := t.date_isValid
  have hdays := Date.monthLength_le t.date.year t.date.month
  have hyear := t.dayOfYear_bounds
  have hhour := t.hour_lt
  have hdial := hourOfHalf_bounds t.hour
  have hminute := t.minute_lt
  have hsecond := Instant.second_le ht
  have hfraction := t.fraction_lt
  cases f <;> simp only [fieldNumber, Part.width] <;> omega

theorem setNumber_fieldNumber (ht : t.IsRepresented) (hf : f.isNumber = true)
    (hp : p.Within t.allParts) :
    p.setNumber f (fieldNumber t f) = some (p.merge (t.partsOf f)) := by
  obtain ⟨hone, hmonth, hday, hlength⟩ := t.date_isValid
  have hdays := Date.monthLength_le t.date.year t.date.month
  have hyear := t.dayOfYear_bounds
  have hhour := t.hour_lt
  cases f with
  | yearOfCentury =>
    have hagree := DateParts.agreeWithin_eq (Nat.zero_le _)
      (show (t.date.year % 100).toNat ≤ 99 by omega) hp.yearOfCentury
    simp only [DateParts.setNumber, fieldNumber, hagree]
    rfl
  | month =>
    have hagree := DateParts.agreeWithin_eq hone hmonth hp.month
    simp only [DateParts.setNumber, DateParts.setMonth, fieldNumber, hagree]
    rfl
  | day =>
    have hagree := DateParts.agreeWithin_eq hday (hlength.trans hdays) hp.day
    simp only [DateParts.setNumber, fieldNumber, hagree]
    rfl
  | dayOfYear =>
    have hagree := DateParts.agreeWithin_eq hyear.1 hyear.2 hp.dayOfYear
    simp only [DateParts.setNumber, fieldNumber, hagree]
    rfl
  | hour =>
    simp only [DateParts.setNumber, DateParts.setHour, fieldNumber, if_pos hhour,
      DateParts.setHalf, DateParts.agree_eq hp.half, DateParts.setHourOfHalf, Option.map_some,
      Option.bind_some, DateParts.agree_eq hp.hourOfHalf]
    rfl
  | hourOfHalf =>
    obtain ⟨hleast, hmost, hsame⟩ := hourOfHalf_bounds t.hour
    simp only [DateParts.setNumber, DateParts.setDialHour, fieldNumber, hleast, hmost, and_self,
      if_true, hsame, DateParts.setHourOfHalf, DateParts.agree_eq hp.hourOfHalf]
    rfl
  | minute =>
    have hagree :=
      DateParts.agreeWithin_eq (Nat.zero_le _) (Nat.le_of_lt_succ t.minute_lt) hp.minute
    simp only [DateParts.setNumber, fieldNumber, hagree]
    rfl
  | second =>
    have hagree := DateParts.agreeWithin_eq (Nat.zero_le _) (Instant.second_le ht) hp.second
    simp only [DateParts.setNumber, fieldNumber, hagree]
    rfl
  | nanos =>
    simp only [DateParts.setNumber, DateParts.setNanos, fieldNumber, DateParts.agree_eq hp.nanos]
    rfl
  | _ => cases hf

theorem head_renderField_not_blank (hf : f ≠ .fraction) (rest : List Char) :
    ∀ c ∈ (renderField t f ++ rest).head?, isBlank c = false := by
  intro c hc
  have hmem := mem_of_mem_head?_append (renderField_ne_nil hf) c hc
  exact isBlank_of_isStampChar (isStampChar_of_mem_renderField hmem)

theorem head_padded_not_blank {width n : Nat} (rest : List Char) :
    ∀ c ∈ (padded width n ++ rest).head?, isBlank c = false := fun c hc =>
  isBlank_of_mem_padded c (mem_of_mem_head?_append (padded_ne_nil width n) c hc)

theorem readField?_padded {q : DateParts} {n : Nat} (hf : f.isNumber = true)
    (hn : n < 10 ^ f.width) (hset : p.setNumber f n = some q) (rest : List Char) :
    readField? f p (padded f.width n ++ rest) = some (q, rest) := by
  have hwidth : 0 < f.width := by cases f <;> decide
  have htrim : trimStart (padded f.width n ++ rest) = padded f.width n ++ rest :=
    trimStart_of_head (head_padded_not_blank rest)
  have hread : readNumber? 1 f.width (trimStart (padded f.width n ++ rest)) = some (n, rest) := by
    rw [htrim]
    exact readNumber?_padded hwidth hn hwidth (Nat.le_refl _) fun h => absurd h (Nat.lt_irrefl _)
  cases f
  all_goals first
    | (cases hf; done)
    | (simp only [readField?, hread, hset, Option.bind_eq_bind, Option.bind_some]; rfl)

theorem readField?_yearText (hyear : 0 ≤ t.date.year) (hlast : t.date.year ≤ 9999)
    (hp : p.Within t.allParts) (rest : List Char) :
    readField? .year p (yearText t.date.year ++ rest) = some (p.merge (t.partsOf .year), rest) := by
  have htext : yearText t.date.year = padded 4 t.date.year.toNat := if_pos ⟨hyear, hlast⟩
  have htrim :
      trimStart (padded 4 t.date.year.toNat ++ rest) = padded 4 t.date.year.toNat ++ rest :=
    trimStart_of_head (head_padded_not_blank rest)
  have hnumber : readNumber? 1 4 (padded 4 t.date.year.toNat ++ rest) =
      some (t.date.year.toNat, rest) :=
    readNumber?_padded (by decide) (by omega) (by decide) (Nat.le_refl 4)
      fun h => absurd h (Nat.lt_irrefl 4)
  have hdigit : ∀ c ∈ (padded 4 t.date.year.toNat ++ rest).head?, c.isDigit = true := fun c hc =>
    isDigit_of_mem_padded (mem_of_mem_head?_append (padded_ne_nil 4 _) c hc)
  have hread : readYear? (padded 4 t.date.year.toNat ++ rest) = some (t.date.year, rest) := by
    unfold readYear?
    split
    · rename_i heq
      cases hdigit '-' (by rw [heq]; rfl)
    · rename_i heq
      cases hdigit '+' (by rw [heq]; rfl)
    · simp [hnumber, Int.toNat_of_nonneg hyear]
  have hset : p.setYear t.date.year = some (p.merge (t.partsOf .year)) := by
    simp only [DateParts.setYear, DateParts.agree_eq hp.year]
    rw [if_pos (by omega)]
    rfl
  simp [readField?, htext, htrim, hread, hset]

theorem readShortName?_monthNames {place : Nat} (hplace : place < 12) (rest : List Char) :
    readShortName? monthNames ((monthNames.getD place []).take 3 ++ rest) = some (place, rest) := by
  interval_cases place <;> rfl

theorem readName?_monthNames {place : Nat} (hplace : place < 12) (rest : List Char) :
    readName? monthNames (monthNames.getD place [] ++ rest) = some (place, rest) := by
  interval_cases place <;> rfl

theorem readShortName?_weekdayNames {place : Nat} (hplace : place < 7) (rest : List Char) :
    readShortName? weekdayNames ((weekdayNames.getD place []).take 3 ++ rest) =
      some (place, rest) := by
  interval_cases place <;> rfl

theorem readName?_weekdayNames {place : Nat} (hplace : place < 7) (rest : List Char) :
    readName? weekdayNames (weekdayNames.getD place [] ++ rest) = some (place, rest) := by
  interval_cases place <;> rfl

theorem readNumber?_zeros (rest : List Char) :
    readNumber? 2 2 ('0' :: '0' :: rest) = some (0, rest) := rfl

theorem skipColonsAndBlanks_zero (rest : List Char) :
    skipColonsAndBlanks ('0' :: rest) = '0' :: rest := rfl

theorem skipColonsAndBlanks_colon (rest : List Char) :
    skipColonsAndBlanks (':' :: '0' :: rest) = '0' :: rest := rfl

theorem readOffset?_zero (hf : f = .offset ∨ f = .offsetColon) (rest : List Char) :
    readOffset? (fun cs => some (skipColonsAndBlanks cs)) (renderField t f ++ rest) =
      some (0, rest) := by
  rcases hf with rfl | rfl <;>
    simp [renderField, readOffset?, readSign?, readNumber?_zeros, skipColonsAndBlanks_zero,
      skipColonsAndBlanks_colon]

theorem setOffset_zero (hp : p.Within t.allParts) :
    p.setOffset 0 = some (p.merge (t.partsOf .offset)) := by
  rw [DateParts.setOffset, DateParts.agree_eq hp.offset]
  rfl

theorem setMonth_date (hp : p.Within t.allParts) :
    p.setMonth (t.date.month - 1 + 1) = some (p.merge (t.partsOf .month)) := by
  obtain ⟨hone, htwelve, -⟩ := t.date_isValid
  rw [Nat.sub_add_cancel hone, DateParts.setMonth, DateParts.agreeWithin_eq hone htwelve hp.month]
  rfl

theorem setWeekday_date (hp : p.Within t.allParts) :
    p.setWeekday t.date.weekday = some (p.merge (t.partsOf .weekdayName)) := by
  rw [DateParts.setWeekday, DateParts.agree_eq hp.weekday]
  rfl

/-- Every field but a fraction is read where it was written, whatever follows it. -/
theorem readField?_renderField (ht : t.IsRepresented) (hyear : 0 ≤ t.date.year)
    (hlast : t.date.year ≤ 9999) (hf : f ≠ .fraction) (hp : p.Within t.allParts)
    (rest : List Char) :
    readField? f p (renderField t f ++ rest) = some (p.merge (t.partsOf f), rest) := by
  have hmonth : t.date.month - 1 < 12 := by
    obtain ⟨hone, htwelve, -⟩ := t.date_isValid
    omega
  have hweekday : t.date.weekday < 7 := by
    rw [Date.weekday]
    omega
  by_cases hnumber : f.isNumber = true
  · rw [renderField_number hnumber]
    exact readField?_padded hnumber (fieldNumber_lt ht hnumber)
      (setNumber_fieldNumber ht hnumber hp) rest
  · cases f with
    | year => exact readField?_yearText hyear hlast hp rest
    | monthShortName =>
      simp only [readField?, renderField, readShortName?_monthNames hmonth]
      simp [setMonth_date hp, Instant.partsOf]
    | monthName =>
      simp only [readField?, renderField, readName?_monthNames hmonth]
      simp [setMonth_date hp, Instant.partsOf]
    | weekdayShortName =>
      simp only [readField?, renderField, readShortName?_weekdayNames hweekday]
      simp [setWeekday_date hp, Instant.partsOf]
    | weekdayName =>
      simp only [readField?, renderField, readName?_weekdayNames hweekday]
      simp [setWeekday_date hp]
    | halfOfDay =>
      have hread :
          readHalfOfDay? (renderField t .halfOfDay ++ rest) = some (t.hour / 12, rest) := by
        have hhour := t.hour_lt
        simp only [renderField]
        split
        · rw [show t.hour / 12 = 0 by omega]
          rfl
        · rw [show t.hour / 12 = 1 by omega]
          rfl
      have hset : p.setHalf (t.hour / 12) = some (p.merge (t.partsOf .halfOfDay)) := by
        rw [DateParts.setHalf, DateParts.agree_eq hp.half]
        rfl
      simp [readField?, hread, hset]
    | fraction => exact absurd rfl hf
    | offset | offsetColon =>
      have htrim : trimStart (renderField t _ ++ rest) = _ :=
        trimStart_of_head (head_renderField_not_blank hf rest)
      simp [readField?, htrim, readOffset?_zero, setOffset_zero hp, Instant.partsOf]
    | _ => exact absurd rfl hnumber

/-- A text that items are written as, but for the number of its blanks; a fraction, which may be
empty, is left to what stands around such a text. -/
inductive IsWritten (t : Instant) : List Item → List Char → Prop
  | nil : IsWritten t [] []
  | literal {c : Char} {layout : List Item} {cs : List Char} (hc : isBlank c = false) :
      IsWritten t layout cs → IsWritten t (.literal c :: layout) (c :: cs)
  | blank {c : Char} {layout : List Item} {blanks cs : List Char}
      (hblanks : ∀ b ∈ blanks, isBlank b = true) :
      IsWritten t layout cs → IsWritten t (.blank c :: layout) (blanks ++ cs)
  | part {f : Part} {layout : List Item} {cs : List Char} (hf : f ≠ .fraction) :
      IsWritten t layout cs → IsWritten t (.part f :: layout) (renderField t f ++ cs)

variable {layout : List Item} {cs : List Char}

theorem isWritten_renderItems (hproper : ∀ item ∈ layout, item.IsProper)
    (hfraction : .part .fraction ∉ layout) : IsWritten t layout (renderItems t layout) := by
  induction layout with
  | nil => exact .nil
  | cons item layout ih =>
    have hrest : IsWritten t layout (renderItems t layout) :=
      ih (fun other hother => hproper other (List.mem_cons_of_mem item hother))
        fun h => hfraction (List.mem_cons_of_mem item h)
    have hitem := hproper item List.mem_cons_self
    cases item with
    | literal c => exact .literal hitem hrest
    | blank c =>
      have hc : ∀ b ∈ [c], isBlank b = true := by
        intro b hb
        rw [List.mem_singleton.mp hb]
        exact hitem
      exact .blank hc hrest
    | part f =>
      have hf : f ≠ .fraction := by
        rintro rfl
        exact hfraction List.mem_cons_self
      exact .part hf hrest
    | invalid => exact hitem.elim

theorem IsWritten.trimStart (h : IsWritten t layout cs) : IsWritten t layout (trimStart cs) := by
  induction h with
  | nil => exact .nil
  | @literal c layout cs hc h ih =>
    rw [trimStart_of_head (by rintro b ⟨⟩; exact hc)]
    exact .literal hc h
  | @blank c layout blanks cs hblanks h ih =>
    have hnone : IsWritten t (.blank c :: layout) ([] ++ Text.trimStart cs) :=
      .blank (List.forall_mem_nil _) ih
    rw [trimStart_append, trimStart_eq_nil hblanks]
    exact hnone
  | @part f layout cs hf h ih =>
    rw [trimStart_of_head (head_renderField_not_blank hf cs)]
    exact .part hf h

theorem IsWritten.trimEnd (h : IsWritten t layout cs) : IsWritten t layout (trimEnd cs) := by
  induction h with
  | nil => exact .nil
  | @literal c layout cs hc h ih =>
    have hlast : ∀ b ∈ [c].getLast?, isBlank b = false := by
      rintro b ⟨⟩
      exact hc
    have htrim : Text.trimEnd (c :: cs) = c :: Text.trimEnd cs := trimEnd_append_of_getLast hlast
    rw [htrim]
    exact .literal hc ih
  | @blank c layout blanks cs hblanks h ih =>
    rw [trimEnd_append]
    split
    · rename_i hempty
      have hnone : IsWritten t (.blank c :: layout) ([] ++ Text.trimEnd cs) :=
        .blank (List.forall_mem_nil _) ih
      rw [trimEnd_eq_nil hblanks]
      rwa [List.isEmpty_iff.mp hempty] at hnone
    · exact .blank hblanks ih
  | @part f layout cs hf h ih =>
    have hlast : ∀ b ∈ (renderField t f).getLast?, isBlank b = false := fun b hb =>
      isBlank_of_isStampChar (isStampChar_of_mem_renderField (List.mem_of_getLast? hb))
    rw [trimEnd_append_of_getLast hlast]
    exact .part hf ih

end Layout

/-- The parts that a layout names are known, and none differs from those of the instant. -/
structure DateParts.Tells (q : DateParts) (layout : List Item) (t : Instant) : Prop where
  within : q.Within t.allParts
  gives : ∀ f, .part f ∈ layout → (t.partsOf f).Within q

namespace Layout

variable {t : Instant} {p : DateParts} {layout : List Item} {cs : List Char}

/-- A text that the items are written as gives the parts that they name. -/
theorem readItems?_isWritten (ht : t.IsRepresented) (hyear : 0 ≤ t.date.year)
    (hlast : t.date.year ≤ 9999) {rest : List Char} (hrest : ∀ c ∈ rest.head?, isBlank c = false)
    (h : IsWritten t layout cs) (hp : p.Within t.allParts) :
    ∃ q, readItems? layout p (cs ++ rest) = some (q, rest) ∧ p.Within q ∧ q.Tells layout t := by
  induction layout generalizing cs p with
  | nil =>
    cases h
    exact ⟨p, rfl, .refl p, hp, fun f hf => by cases hf⟩
  | cons item layout ih =>
    cases h with
    | literal hc h =>
      obtain ⟨q, hread, hpq, hq⟩ := ih h hp
      refine ⟨q, ?_, hpq, hq.within, ?_⟩
      · simpa [readItems?, readItem?, afterStart?] using hread
      · intro f hf
        exact hq.gives f (by simpa using hf)
    | @blank c layout blanks cs hblanks h =>
      obtain ⟨q, hread, hpq, hq⟩ := ih h.trimStart hp
      have htrim : trimStart (blanks ++ cs ++ rest) = trimStart cs ++ rest := by
        rw [trimStart_append_of_head hrest, trimStart_append, trimStart_eq_nil hblanks]
        rfl
      refine ⟨q, ?_, hpq, hq.within, ?_⟩
      · simpa only [readItems?, readItem?, htrim, Option.bind_some] using hread
      · intro f hf
        exact hq.gives f (by simpa using hf)
    | @part f layout cs hf h =>
      have hfield := readField?_renderField ht hyear hlast hf hp (cs ++ rest)
      have hleft := DateParts.within_merge_left hp (Instant.partsOf_within (f := f))
      obtain ⟨q, hread, hpq, hq⟩ := ih h (DateParts.merge_within hp Instant.partsOf_within)
      refine ⟨q, ?_, hleft.trans hpq, hq.within, ?_⟩
      · rw [List.append_assoc]
        simpa [readItems?, readItem?, hfield] using hread
      · intro g hg
        rcases List.mem_cons.mp hg with heq | hg
        · cases heq
          exact DateParts.within_merge_right.trans hpq
        · exact hq.gives g hg

/-- The layout names a day, by a year that its two last digits tell if need be, and a time of day
down to the second. -/
structure IsComplete (layout : List Item) (t : Instant) : Prop where
  year : .part .year ∈ layout ∨
    .part .yearOfCentury ∈ layout ∧ 1970 ≤ t.date.year ∧ t.date.year ≤ 2069
  day : (.part .month ∈ layout ∨ .part .monthShortName ∈ layout ∨ .part .monthName ∈ layout) ∧
    .part .day ∈ layout ∨ .part .dayOfYear ∈ layout
  hour : .part .hour ∈ layout ∨ .part .hourOfHalf ∈ layout ∧ .part .halfOfDay ∈ layout
  minute : .part .minute ∈ layout
  second : .part .second ∈ layout

end Layout

namespace DateParts

variable {layout : List Item} {t : Instant} {q : DateParts}

theorem matchesPart_eq {α : Type} [DecidableEq α] {part : Option α} {value : α}
    (h : ∀ x ∈ part, x ∈ some value) : matchesPart part value = true := by
  cases part with
  | none => rfl
  | some x =>
    cases h x rfl
    exact decide_eq_true rfl

theorem resolveYear?_eq (hyear : 0 ≤ t.date.year) (hq : q.Tells layout t)
    (h : IsComplete layout t) : q.resolveYear? = some t.date.year := by
  rcases h.year with hfull | ⟨hshort, hfrom, hto⟩
  · have hfound : q.year = some t.date.year := (hq.gives _ hfull).year _ rfl
    cases hcentury : q.yearOfCentury with
    | none => simp [resolveYear?, hfound, hcentury]
    | some r =>
      have hr := hq.within.yearOfCentury r hcentury
      cases hr
      simp [resolveYear?, hfound, hcentury]
      omega
  · have hfound : q.yearOfCentury = some (t.date.year % 100).toNat :=
      (hq.gives _ hshort).yearOfCentury _ rfl
    cases hwhole : q.year with
    | none =>
      simp [resolveYear?, hfound, hwhole]
      omega
    | some y =>
      have hy := hq.within.year y hwhole
      cases hy
      simp [resolveYear?, hfound, hwhole]
      omega

theorem resolveDate?_eq (ht : t.IsRepresented) (hyear : 0 ≤ t.date.year)
    (hq : q.Tells layout t) (h : IsComplete layout t) : q.resolveDate? = some t.date := by
  have hfound := resolveYear?_eq hyear hq h
  have hweekday := matchesPart_eq hq.within.weekday
  by_cases hboth : q.month = some t.date.month ∧ q.day = some t.date.day
  · simp [resolveDate?, hfound, hboth, Instant.ofYearMonthDay?_date ht, hweekday,
      matchesPart_eq hq.within.dayOfYear]
  · have hdayOfYear : q.dayOfYear = some t.date.dayOfYear := by
      rcases h.day with ⟨hmonth, hday⟩ | hday
      · refine absurd ⟨?_, (hq.gives _ hday).day _ rfl⟩ hboth
        rcases hmonth with hmonth | hmonth | hmonth
        · exact (hq.gives _ hmonth).month _ rfl
        · exact (hq.gives _ hmonth).month _ rfl
        · exact (hq.gives _ hmonth).month _ rfl
      · exact (hq.gives _ hday).dayOfYear _ rfl
    have hmonth := matchesPart_eq hq.within.month
    have hday := matchesPart_eq hq.within.day
    cases hknown : q.month with
    | none =>
      rw [hknown] at hmonth
      simp [resolveDate?, hfound, hknown, hdayOfYear, Instant.ofYearDay?_date ht, hweekday, hmonth,
        hday]
    | some month =>
      cases hq.within.month month hknown
      cases hopen : q.day with
      | none =>
        rw [hknown] at hmonth
        rw [hopen] at hday
        simp [resolveDate?, hfound, hknown, hopen, hdayOfYear, Instant.ofYearDay?_date ht,
          hweekday, hmonth, hday]
      | some day =>
        cases hq.within.day day hopen
        exact absurd ⟨hknown, hopen⟩ hboth

theorem resolveTime?_eq (ht : t.IsRepresented) (hq : q.Tells layout t) (h : IsComplete layout t)
    (hnanos : q.nanos.getD 0 = t.fraction) :
    q.resolveTime? = some (t.secondOfDay, t.nanos) := by
  have hhour : q.half = some (t.hour / 12) ∧ q.hourOfHalf = some (t.hour % 12) := by
    rcases h.hour with hfull | ⟨hdial, hhalf⟩
    · exact ⟨(hq.gives _ hfull).half _ rfl, (hq.gives _ hfull).hourOfHalf _ rfl⟩
    · exact ⟨(hq.gives _ hhalf).half _ rfl, (hq.gives _ hdial).hourOfHalf _ rfl⟩
  have hminute : q.minute = some t.minute := (hq.gives _ h.minute).minute _ rfl
  have hsecond : q.second = some t.second := (hq.gives _ h.second).second _ rfl
  have hwhole : t.parts.nanos.getD 0 = t.fraction := by
    simp only [Instant.parts]
    split
    · rename_i hzero
      exact hzero.symm
    · rfl
  rw [← Instant.resolveTime?_parts ht]
  simp only [resolveTime?, hhour, hminute, hsecond, hnanos]
  rw [← hwhole]
  rfl

theorem resolveLocal?_eq (ht : t.IsRepresented) (hyear : 0 ≤ t.date.year)
    (hq : q.Tells layout t) (h : IsComplete layout t) (hnanos : q.nanos.getD 0 = t.fraction) :
    q.resolveLocal? = some t := by
  simp only [resolveLocal?, resolveDate?_eq ht hyear hq h, resolveTime?_eq ht hq h hnanos,
    Option.bind_eq_bind, Option.bind_some, Option.pure_def, Instant.ofDateTime_date]

end DateParts

namespace DateFormat

variable {layout : List Item} {t : Instant} {q : DateParts} {cs : List Char}

/-- A text whose parts are those of an instant is read as that instant by the layout, with an
offset or without one. -/
theorem readLayout?_eq (ht : t.IsRepresented) (hyear : 0 ≤ t.date.year)
    (hproper : ∀ item ∈ layout, item.IsProper) (hcomplete : IsComplete layout t)
    (hread : readItems? layout {} cs = some (q, [])) (hq : q.Tells layout t)
    (hnanos : q.nanos.getD 0 = t.fraction) :
    readLayout? (layout.flatMap Item.source) (layout.any DatePattern.isTimeItem)
      (layout.any DatePattern.isOffsetItem) cs = some t := by
  have hlocal := DateParts.resolveLocal?_eq ht hyear hq hcomplete hnanos
  have hwhole : Layout.read? layout cs = some q := by rw [Layout.read?, hread]
  have htime : layout.any DatePattern.isTimeItem = true := by
    rw [List.any_eq_true]
    rcases hcomplete.hour with hhour | ⟨hhour, -⟩
    · exact ⟨_, hhour, rfl⟩
    · exact ⟨_, hhour, rfl⟩
  simp only [readLayout?, items_flatMap_source hproper]
  by_cases hoffset : layout.any DatePattern.isOffsetItem = true
  · have hzero : q.offset = some 0 := by
      obtain ⟨item, hitem, hkind⟩ := List.any_eq_true.mp hoffset
      unfold DatePattern.isOffsetItem at hkind
      split at hkind
      · exact (hq.gives _ hitem).offset _ rfl
      · exact (hq.gives _ hitem).offset _ rfl
      · cases hkind
    have hfirst : readAtOffset? layout cs = some t := by
      rw [readAtOffset?, hwhole, Option.bind_some,
        Instant.resolveInstant?_of_resolveLocal? ht hzero hlocal]
    rw [if_pos hoffset, hfirst]
    rfl
  · rw [if_neg hoffset, if_pos htime, hwhole, Option.bind_some, hlocal]

end DateFormat

end ReportSearch
