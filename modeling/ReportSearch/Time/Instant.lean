import ReportSearch.Time.Calendar

/-!
# Instants

A point in time is a whole number of seconds since the start of 1970, rounded down, and the
nanoseconds after it. A leap second is the second before it with a thousand million nanoseconds or
more, so that instants are ordered first by seconds and then by nanoseconds.
-/

set_option autoImplicit false

namespace ReportSearch

structure Instant where
  seconds : Int
  nanos : Nat
  deriving DecidableEq, Repr, Inhabited

namespace Instant

def nanosPerSecond : Nat := 1000000000

def secondsPerDay : Int := 86400

def leastSeconds : Int := Date.leastDayNumber * secondsPerDay

def greatestSeconds : Int := Date.greatestDayNumber * secondsPerDay + (secondsPerDay - 1)

def earliest : Instant := ⟨leastSeconds, 0⟩

/-- The instant, if its date is represented and only the last second of a minute is a leap one. -/
def ofStamp? (seconds : Int) (nanos : Nat) : Option Instant :=
  if leastSeconds ≤ seconds ∧ seconds ≤ greatestSeconds ∧ nanos < 2 * nanosPerSecond ∧
      (nanos < nanosPerSecond ∨ seconds % 60 = 59) then
    some ⟨seconds, nanos⟩
  else none

def ofMillis? (millis : Int) : Option Instant :=
  ofStamp? (millis / 1000) ((millis % 1000).toNat * 1000000)

/-- Whole milliseconds since the start of 1970, rounded down. -/
def millis (t : Instant) : Int := t.seconds * 1000 + (t.nanos / 1000000 : Nat)

def lt (a b : Instant) : Bool :=
  a.seconds < b.seconds || (a.seconds = b.seconds && a.nanos < b.nanos)

def le (a b : Instant) : Bool := !b.lt a

def min (a b : Instant) : Instant := if b.lt a then b else a

def max (a b : Instant) : Instant := if b.lt a then a else b

/-- The greatest number of seconds in a span of time. -/
def longestSpan : Int := 0x7fffffffffffffff / 1000

/-- The instant so many days earlier, or nothing when either is not represented. A leap second
counts as the start of the next second when time runs back, and as the second itself otherwise. -/
def daysBefore? (t : Instant) (days : Int) : Option Instant :=
  let span := days * secondsPerDay
  if longestSpan < span.natAbs then none
  else if t.nanos < nanosPerSecond then ofStamp? (t.seconds - span) t.nanos
  else if days = 0 then some t
  else if 0 < days then ofStamp? (t.seconds + 1 - span) (t.nanos - nanosPerSecond)
  else ofStamp? (t.seconds - span) (t.nanos - nanosPerSecond)

/-- The date and the second of the day of an instant. -/
def date (t : Instant) : Date := Date.ofDayNumber (t.seconds / secondsPerDay)

def secondOfDay (t : Instant) : Nat := (t.seconds % secondsPerDay).toNat

def hour (t : Instant) : Nat := t.secondOfDay / 3600

def minute (t : Instant) : Nat := t.secondOfDay / 60 % 60

/-- The second within its minute; a leap second is the sixtieth. -/
def second (t : Instant) : Nat := t.secondOfDay % 60 + t.nanos / nanosPerSecond

/-- Nanoseconds within the second, or within the leap second. -/
def fraction (t : Instant) : Nat := t.nanos % nanosPerSecond

def ofDateTime (date : Date) (secondOfDay nanos : Nat) : Instant :=
  ⟨date.dayNumber * secondsPerDay + secondOfDay, nanos⟩

end Instant

end ReportSearch
