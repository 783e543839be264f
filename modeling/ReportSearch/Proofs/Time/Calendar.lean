import Mathlib.Order.Monotone.Basic
import Mathlib.Order.Interval.Set.Basic
import Mathlib.Tactic.IntervalCases
import ReportSearch.Time.Calendar

/-!
# Days and their numbers

A day number is turned into a date and back by way of years that start in March: such a year is a
whole number of centuries, of cycles of four years and of years after the start of its four hundred
years, and its days are counted before its months are looked at. So every day number is that of a
date which exists, and the years of dates are ordered like their day numbers.
-/

set_option autoImplicit false

namespace ReportSearch.Date

structure IsValid (date : Date) : Prop where
  one_le_month : 1 ≤ date.month
  month_le : date.month ≤ 12
  one_le_day : 1 ≤ date.day
  day_le : date.day ≤ monthLength date.year date.month

theorem isLeapYear_iff (year : Int) :
    isLeapYear year = true ↔ year % 4 = 0 ∧ (year % 100 ≠ 0 ∨ year % 400 = 0) := by
  simp [isLeapYear]

theorem monthLength_le (year : Int) (month : Nat) : monthLength year month ≤ 31 := by
  unfold monthLength
  split
  · split <;> decide
  · split <;> decide

def monthOfMarch (place : Nat) : Nat := if place < 10 then place + 3 else place - 9

/-- The date of a day of the year that starts in March, with days counted from zero. -/
def ofMarch (year : Int) (day : Nat) : Date :=
  let place := (5 * day + 2) / 153
  let month := monthOfMarch place
  ⟨if month ≤ 2 then year + 1 else year, month, day - (153 * place + 2) / 5 + 1⟩

/-- Days from the first of March of the year zero to that of another. -/
def marchNumber (year : Int) : Int :=
  year / 400 * 146097 + (year % 400 * 365 + year % 400 / 4 - year % 400 / 100)

theorem ofMarch_isValid {year : Int} {day : Nat} (hday : day ≤ 365)
    (hleap : day = 365 → isLeapYear (year + 1) = true) : (ofMarch year day).IsValid := by
  obtain ⟨k, hk⟩ : ∃ k, k = (5 * day + 2) / 153 := ⟨_, rfl⟩
  have hle : k ≤ 11 := by omega
  have hmonth : 1 ≤ monthOfMarch k ∧ monthOfMarch k ≤ 12 := by
    unfold monthOfMarch
    split <;> omega
  have hlength : day - (153 * k + 2) / 5 + 1 ≤
      monthLength (if monthOfMarch k ≤ 2 then year + 1 else year) (monthOfMarch k) := by
    by_cases hlast : k = 11
    · -- February is the last month, and its last day is in question only in leap years.
      subst hlast
      change day - 337 + 1 ≤ if isLeapYear (year + 1) = true then 29 else 28
      split
      · omega
      · rename_i hyear
        have hne := mt hleap hyear
        omega
    · interval_cases k <;> simp only [monthOfMarch, monthLength] <;> norm_num <;> omega
  rw [ofMarch, ← hk]
  exact ⟨hmonth.1, hmonth.2, Nat.le_add_left _ _, hlength⟩

theorem dayNumber_mk (year : Int) (month day : Nat) :
    dayNumber ⟨year, month, day⟩ = marchNumber (if month ≤ 2 then year - 1 else year) +
      (daysToMonth month + day - 1 : Nat) - 719468 := by
  unfold dayNumber marchNumber
  dsimp only
  omega

theorem daysToMonth_monthOfMarch {place : Nat} (h : place ≤ 11) :
    daysToMonth (monthOfMarch place) = (153 * place + 2) / 5 := by
  interval_cases place <;> rfl

theorem dayNumber_ofMarch {year : Int} {day : Nat} (hday : day ≤ 365) :
    (ofMarch year day).dayNumber = marchNumber year + day - 719468 := by
  obtain ⟨k, hk⟩ : ∃ k, k = (5 * day + 2) / 153 := ⟨_, rfl⟩
  have hyear : (if monthOfMarch k ≤ 2 then (if monthOfMarch k ≤ 2 then year + 1 else year) - 1
      else if monthOfMarch k ≤ 2 then year + 1 else year) = year := by
    by_cases hmonth : monthOfMarch k ≤ 2
    · rw [if_pos hmonth, if_pos hmonth, Int.add_sub_cancel]
    · rw [if_neg hmonth, if_neg hmonth]
  rw [ofMarch, ← hk, dayNumber_mk, hyear, daysToMonth_monthOfMarch (by omega)]
  omega

/-- The year of a day of the four hundred years, by its century, its cycle and its year in this;
only the day that ends a cycle, or the last century, is past the days of a common year. -/
theorem yearOfEra_eq {d : Int} (hleast : 0 ≤ d) (hmost : d < 146097) :
    ∃ century cycle year : Int, (0 ≤ century ∧ century ≤ 3) ∧ (0 ≤ cycle ∧ cycle ≤ 24) ∧
      (0 ≤ year ∧ year ≤ 3) ∧
      (d - d / 1460 + d / 36524 - d / 146096) / 365 = 100 * century + 4 * cycle + year ∧
      36524 * century + 1461 * cycle + 365 * year ≤ d ∧
      d ≤ 36524 * century + 1461 * cycle + 365 * year + 365 ∧
      (d = 36524 * century + 1461 * cycle + 365 * year + 365 →
        year = 3 ∧ (cycle < 24 ∨ century = 3)) := by
  by_cases hlast : d = 146096
  · subst hlast
    exact ⟨3, 24, 3, by decide⟩
  · have hera : d / 146096 = 0 := by omega
    obtain ⟨century, hcentury⟩ : ∃ century, century = d / 36524 := ⟨_, rfl⟩
    obtain ⟨cycle, hcycle⟩ : ∃ cycle, cycle = (d - 36524 * century) / 1461 := ⟨_, rfl⟩
    obtain ⟨rest, hrest⟩ : ∃ rest, rest = d - 36524 * century - 1461 * cycle := ⟨_, rfl⟩
    have hquarter : d / 1460 = 25 * century + cycle ∧ rest < 1460 ∨
        d / 1460 = 25 * century + cycle + 1 ∧ 1364 ≤ rest := by
      omega
    by_cases hk : rest = 1460
    · refine ⟨century, cycle, 3, ?_⟩
      omega
    · refine ⟨century, cycle, rest / 365, ?_⟩
      omega

theorem ofDayNumber_eq (n : Int) :
    ∃ (year : Int) (day : Nat), ofDayNumber n = ofMarch year day ∧ day ≤ 365 ∧
      (day = 365 → isLeapYear (year + 1) = true) ∧ n = marchNumber year + day - 719468 := by
  obtain ⟨era, hera⟩ : ∃ era, era = (n + 719468) / 146097 := ⟨_, rfl⟩
  obtain ⟨d, hd⟩ : ∃ d, d = (n + 719468) % 146097 := ⟨_, rfl⟩
  have hn : n + 719468 = era * 146097 + d := by omega
  have hleast : 0 ≤ d := by omega
  have hmost : d < 146097 := by omega
  obtain ⟨century, cycle, rest, hcentury, hcycle, hrest, heq, hle, hge, hlast⟩ :=
    yearOfEra_eq hleast hmost
  obtain ⟨y, hy⟩ : ∃ y, y = 100 * century + 4 * cycle + rest := ⟨_, rfl⟩
  rw [← hy] at heq
  have hquarter : y / 4 = 25 * century + cycle := by
    clear hlast heq
    omega
  have hcenturies : y / 100 = century := by
    clear hlast heq
    omega
  have hdays : 365 * y + y / 4 - y / 100 = 36524 * century + 1461 * cycle + 365 * rest := by
    clear hlast heq
    omega
  refine ⟨y + era * 400, (d - (365 * y + y / 4 - y / 100)).toNat, ?_, ?_, ?_, ?_⟩
  · simp only [ofDayNumber, ofMarch, monthOfMarch, ← hera, ← hd, heq]
    rfl
  · clear heq hlast
    omega
  · rw [hdays, isLeapYear_iff]
    intro h
    obtain ⟨hthird, hnot⟩ := hlast (by clear hlast heq; omega)
    clear hlast heq h hle hge
    refine ⟨by omega, ?_⟩
    by_cases hfull : cycle = 24
    · right
      omega
    · left
      omega
  · have hmod : (y + era * 400) % 400 = y := by clear hlast heq; omega
    have hdiv : (y + era * 400) / 400 = era := by clear hlast heq; omega
    simp only [marchNumber, hmod, hdiv]
    clear heq hlast
    omega

theorem dayNumber_ofDayNumber (n : Int) : (ofDayNumber n).dayNumber = n := by
  obtain ⟨year, day, heq, hday, -, hn⟩ := ofDayNumber_eq n
  rw [heq, dayNumber_ofMarch hday, ← hn]

theorem ofDayNumber_isValid (n : Int) : (ofDayNumber n).IsValid := by
  obtain ⟨year, day, heq, hday, hleap, -⟩ := ofDayNumber_eq n
  rw [heq]
  exact ofMarch_isValid hday hleap

theorem marchNumber_succ (year : Int) :
    marchNumber (year + 1) = marchNumber year + yearLength (year + 1) := by
  obtain ⟨era, hera⟩ : ∃ era, era = year / 400 := ⟨_, rfl⟩
  obtain ⟨y, hy⟩ : ∃ y, y = year % 400 := ⟨_, rfl⟩
  have hyear : year = era * 400 + y := by omega
  have hleap := isLeapYear_iff (year + 1)
  unfold marchNumber yearLength
  by_cases hlast : y = 399
  · have h : isLeapYear (year + 1) = true := by
      rw [hleap]
      omega
    simp only [h, if_true]
    omega
  · have hdiv : (year + 1) / 400 = era := by omega
    have hmod : (year + 1) % 400 = y + 1 := by omega
    rw [← hera, ← hy, hdiv, hmod]
    split
    · rename_i h
      rw [hleap] at h
      clear hleap
      omega
    · rename_i h
      rw [hleap] at h
      clear hleap
      omega

/-- The number of the first of January. -/
def firstDay (year : Int) : Int := dayNumber ⟨year, 1, 1⟩

theorem firstDay_eq (year : Int) : firstDay year = marchNumber (year - 1) + 306 - 719468 :=
  dayNumber_mk year 1 1

theorem firstDay_succ (year : Int) : firstDay (year + 1) = firstDay year + yearLength year := by
  have h := marchNumber_succ (year - 1)
  rw [Int.sub_add_cancel] at h
  rw [firstDay_eq, firstDay_eq, Int.add_sub_cancel, h]
  omega

theorem firstDay_lt_iff {year other : Int} : firstDay year < firstDay other ↔ year < other := by
  have hmono : StrictMono firstDay := by
    refine strictMono_int_of_lt_succ fun year => ?_
    have hlength : 0 < yearLength year := by
      unfold yearLength
      split <;> decide
    rw [firstDay_succ]
    omega
  exact hmono.lt_iff_lt

theorem firstDay_le_iff {year other : Int} : firstDay year ≤ firstDay other ↔ year ≤ other := by
  rw [← Int.not_lt, firstDay_lt_iff, Int.not_lt]

/-- A date lies between the first days of its year and of the next. -/
theorem IsValid.dayNumber_bounds {date : Date} (h : date.IsValid) :
    firstDay date.year ≤ date.dayNumber ∧ date.dayNumber < firstDay (date.year + 1) := by
  obtain ⟨year, month, day⟩ := date
  obtain ⟨hone, hmonth, hday, hlength⟩ := h
  dsimp only at hone hmonth hday hlength ⊢
  have hsucc := marchNumber_succ (year - 1)
  rw [Int.sub_add_cancel] at hsucc
  rw [firstDay_eq, firstDay_eq, Int.add_sub_cancel, hsucc, dayNumber_mk]
  simp only [monthLength] at hlength
  simp only [yearLength, daysToMonth] at hsucc ⊢
  by_cases hleap : isLeapYear year = true
  · simp only [hleap, if_true] at hlength hsucc ⊢
    interval_cases month <;> simp at hlength ⊢ <;> omega
  · simp only [hleap, Bool.false_eq_true, if_false] at hlength hsucc ⊢
    interval_cases month <;> simp at hlength ⊢ <;> omega

theorem isYear_iff {year : Int} :
    isYear year = true ↔
      leastDayNumber ≤ firstDay year ∧ firstDay (year + 1) ≤ greatestDayNumber + 1 := by
  have hleast : leastDayNumber = firstDay leastYear := rfl
  have hgreatest : greatestDayNumber + 1 = firstDay (greatestYear + 1) := by decide
  rw [isYear, Bool.and_eq_true, decide_eq_true_iff, decide_eq_true_iff, hleast, hgreatest,
    firstDay_le_iff, firstDay_le_iff, Int.add_le_add_iff_right]

theorem IsValid.isYear_iff {date : Date} (h : date.IsValid) :
    isYear date.year = true ↔
      leastDayNumber ≤ date.dayNumber ∧ date.dayNumber ≤ greatestDayNumber := by
  obtain ⟨hfirst, hlast⟩ := h.dayNumber_bounds
  constructor
  · intro hyear
    obtain ⟨hfrom, hto⟩ := Date.isYear_iff.mp hyear
    omega
  · rintro ⟨hfrom, hto⟩
    have hleast : leastDayNumber = firstDay leastYear := rfl
    have hgreatest : greatestDayNumber + 1 = firstDay (greatestYear + 1) := by decide
    have hlower : firstDay leastYear < firstDay (date.year + 1) := by omega
    have hupper : firstDay date.year < firstDay (greatestYear + 1) := by omega
    rw [firstDay_lt_iff] at hlower hupper
    rw [isYear, Bool.and_eq_true, decide_eq_true_iff, decide_eq_true_iff]
    omega

end ReportSearch.Date
