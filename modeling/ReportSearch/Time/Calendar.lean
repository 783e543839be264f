/-!
# The Gregorian calendar

Days are numbered from the first of January 1970, years extend before the year one with the year
zero, and weekdays follow from the day number. A year starts in March inside the computation, so
that the leap day comes last.
-/

set_option autoImplicit false

namespace ReportSearch

structure Date where
  year : Int
  month : Nat
  day : Nat
  deriving DecidableEq, Repr, Inhabited

namespace Date

def isLeapYear (year : Int) : Bool :=
  year % 4 = 0 && (year % 100 != 0 || year % 400 = 0)

def monthLength (year : Int) (month : Nat) : Nat :=
  if month = 2 then if isLeapYear year then 29 else 28
  else if month = 4 ∨ month = 6 ∨ month = 9 ∨ month = 11 then 30
  else 31

def yearLength (year : Int) : Nat := if isLeapYear year then 366 else 365

/-- The first and last year that are represented. -/
def leastYear : Int := -262143
def greatestYear : Int := 262142

def isYear (year : Int) : Bool := leastYear ≤ year && year ≤ greatestYear

/-- The date, if its month and day exist and its year is represented. -/
def ofYearMonthDay? (year : Int) (month day : Nat) : Option Date :=
  if isYear year ∧ 1 ≤ month ∧ month ≤ 12 ∧ 1 ≤ day ∧ day ≤ monthLength year month then
    some ⟨year, month, day⟩
  else none

/-- Days from the first of March to the first of a month of the year that starts then. -/
def daysToMonth (month : Nat) : Nat := (153 * ((month + 9) % 12) + 2) / 5

/-- Days from the first of January 1970. -/
def dayNumber (date : Date) : Int :=
  let year := if date.month ≤ 2 then date.year - 1 else date.year
  let era := year / 400
  let yearOfEra := year % 400
  let dayOfEra := yearOfEra * 365 + yearOfEra / 4 - yearOfEra / 100 +
    (daysToMonth date.month + date.day - 1 : Nat)
  era * 146097 + dayOfEra - 719468

def ofDayNumber (n : Int) : Date :=
  let shifted := n + 719468
  let era := shifted / 146097
  let dayOfEra := shifted % 146097
  let yearOfEra := (dayOfEra - dayOfEra / 1460 + dayOfEra / 36524 - dayOfEra / 146096) / 365
  let dayOfYear := (dayOfEra - (365 * yearOfEra + yearOfEra / 4 - yearOfEra / 100)).toNat
  let monthOfYear := (5 * dayOfYear + 2) / 153
  let day := dayOfYear - (153 * monthOfYear + 2) / 5 + 1
  let month := if monthOfYear < 10 then monthOfYear + 3 else monthOfYear - 9
  let year := yearOfEra + era * 400
  ⟨if month ≤ 2 then year + 1 else year, month, day⟩

/-- The day within its year, counted from one. -/
def dayOfYear (date : Date) : Nat :=
  (date.dayNumber - dayNumber ⟨date.year, 1, 1⟩).toNat + 1

def ofYearDay? (year : Int) (dayOfYear : Nat) : Option Date :=
  if isYear year ∧ 1 ≤ dayOfYear ∧ dayOfYear ≤ yearLength year then
    some (ofDayNumber (dayNumber ⟨year, 1, 1⟩ + (dayOfYear - 1 : Nat)))
  else none

/-- Days since Monday; the first of January 1970 was a Thursday. -/
def weekday (date : Date) : Nat := ((date.dayNumber + 3) % 7).toNat

def leastDayNumber : Int := dayNumber ⟨leastYear, 1, 1⟩
def greatestDayNumber : Int := dayNumber ⟨greatestYear, 12, 31⟩

end Date

end ReportSearch
