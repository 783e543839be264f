import ReportSearch.Time.Layout

/-!
# Reading dates by a layout

The items of a layout read a text from left to right and collect the parts of a date. A part that is
read twice has to agree with itself. When the text is used up, the parts are resolved to a date, to
a time of day, or to both with an offset; parts that contradict each other or are too few give
nothing.
-/

set_option autoImplicit false

namespace ReportSearch

open Text

/-- The parts that a text has given so far. -/
structure DateParts where
  year : Option Int := none
  yearOfCentury : Option Nat := none
  month : Option Nat := none
  day : Option Nat := none
  dayOfYear : Option Nat := none
  weekday : Option Nat := none
  /-- Zero before noon and one after it. -/
  half : Option Nat := none
  /-- The hour within the half of the day, from 0 to 11. -/
  hourOfHalf : Option Nat := none
  minute : Option Nat := none
  second : Option Nat := none
  nanos : Option Nat := none
  /-- Seconds east of Greenwich. -/
  offset : Option Int := none
  deriving DecidableEq, Repr

namespace DateParts

/-- Puts a value into an empty place or finds it there. -/
def agree {α : Type} [DecidableEq α] (held : Option α) (value : α) : Option (Option α) :=
  match held with
  | none => some (some value)
  | some known => if known = value then some held else none

def agreeWithin (least greatest : Nat) (held : Option Nat) (value : Nat) : Option (Option Nat) :=
  if least ≤ value ∧ value ≤ greatest then agree held value else none

def setYear (p : DateParts) (value : Int) : Option DateParts :=
  if -0x80000000 ≤ value ∧ value < 0x80000000 then
    (agree p.year value).map fun x => { p with year := x }
  else none

def setHalf (p : DateParts) (value : Nat) : Option DateParts :=
  (agree p.half value).map fun x => { p with half := x }

def setHourOfHalf (p : DateParts) (value : Nat) : Option DateParts :=
  (agree p.hourOfHalf value).map fun x => { p with hourOfHalf := x }

def setHour (p : DateParts) (value : Nat) : Option DateParts :=
  if value < 24 then (p.setHalf (value / 12)).bind (·.setHourOfHalf (value % 12)) else none

def setDialHour (p : DateParts) (value : Nat) : Option DateParts :=
  if 1 ≤ value ∧ value ≤ 12 then p.setHourOfHalf (value % 12) else none

def setWeekday (p : DateParts) (value : Nat) : Option DateParts :=
  (agree p.weekday value).map fun x => { p with weekday := x }

def setMonth (p : DateParts) (value : Nat) : Option DateParts :=
  (agreeWithin 1 12 p.month value).map fun x => { p with month := x }

def setNanos (p : DateParts) (value : Nat) : Option DateParts :=
  (agree p.nanos value).map fun x => { p with nanos := x }

def setOffset (p : DateParts) (value : Int) : Option DateParts :=
  (agree p.offset value).map fun x => { p with offset := x }

/-- Sets the part that an unsigned number of a layout field gives. -/
def setNumber (p : DateParts) (f : Layout.Part) (n : Nat) : Option DateParts :=
  match f with
  | .yearOfCentury => (agreeWithin 0 99 p.yearOfCentury n).map fun x => { p with yearOfCentury := x }
  | .month => p.setMonth n
  | .day => (agreeWithin 1 31 p.day n).map fun x => { p with day := x }
  | .dayOfYear => (agreeWithin 1 366 p.dayOfYear n).map fun x => { p with dayOfYear := x }
  | .hour => p.setHour n
  | .hourOfHalf => p.setDialHour n
  | .minute => (agreeWithin 0 59 p.minute n).map fun x => { p with minute := x }
  | .second => (agreeWithin 0 60 p.second n).map fun x => { p with second := x }
  | .nanos => p.setNanos n
  | _ => none

/-- The year; two digits alone are from 1970 to 2069, and beside a year they have to end it. -/
def resolveYear? (p : DateParts) : Option Int :=
  match p.year, p.yearOfCentury with
  | some y, none => some y
  | some y, some r => if 0 ≤ y ∧ y % 100 = r then some y else none
  | none, some r => some (if r < 70 then 2000 + r else 1900 + r)
  | none, none => none

def matchesPart {α : Type} [DecidableEq α] (part : Option α) (value : α) : Bool :=
  part.all (· = value)

/-- The date that year, month and day give, or year and day of the year, if nothing contradicts. -/
def resolveDate? (p : DateParts) : Option Date := do
  let year ← p.resolveYear?
  match p.month, p.day, p.dayOfYear with
  | some month, some day, dayOfYear =>
    let date ← Date.ofYearMonthDay? year month day
    if matchesPart p.weekday date.weekday && matchesPart dayOfYear date.dayOfYear then some date
    else none
  | month, day, some dayOfYear =>
    let date ← Date.ofYearDay? year dayOfYear
    if matchesPart p.weekday date.weekday && matchesPart month date.month &&
        matchesPart day date.day then some date
    else none
  | _, _, none => none

/-- Second of the day and nanoseconds; seconds may be left out, but not before a fraction. -/
def resolveTime? (p : DateParts) : Option (Nat × Nat) := do
  let half ← p.half
  let hourOfHalf ← p.hourOfHalf
  let minute ← p.minute
  let base := (half * 12 + hourOfHalf) * 3600 + minute * 60
  match p.second, p.nanos with
  | none, none => some (base, 0)
  | none, some _ => none
  | some second, nanos =>
    let nanos := nanos.getD 0
    some (if second = 60 then (base + 59, Instant.nanosPerSecond + nanos)
      else (base + second, nanos))

def resolveLocal? (p : DateParts) : Option Instant := do
  let date ← p.resolveDate?
  let (second, nanos) ← p.resolveTime?
  return Instant.ofDateTime date second nanos

/-- The instant of a date and a time at the offset that was read. -/
def resolveInstant? (p : DateParts) : Option Instant := do
  let offset ← p.offset
  let there ← p.resolveLocal?
  if offset.natAbs < 86400 then
    let seconds := there.seconds - offset
    if Instant.leastSeconds ≤ seconds ∧ seconds ≤ Instant.greatestSeconds then
      some ⟨seconds, there.nanos⟩
    else none
  else none

def resolveMidnight? (p : DateParts) : Option Instant :=
  p.resolveDate?.map fun date => Instant.ofDateTime date 0 0

end DateParts

namespace Layout

def readNumber? (least most : Nat) (cs : List Char) : Option (Nat × List Char) :=
  let digits := (spanDigits (cs.take most)).1
  if digits.length < least then none else some (natOfDigits digits, cs.drop digits.length)

def readAllDigits? (cs : List Char) : Option (Nat × List Char) := readNumber? 1 cs.length cs

/-- A year of at most four digits, or of any number of digits after a sign. -/
def readYear? : List Char → Option (Int × List Char)
  | '-' :: cs => (readAllDigits? cs).map fun (n, rest) => (-(n : Int), rest)
  | '+' :: cs => (readAllDigits? cs).map fun (n, rest) => ((n : Int), rest)
  | cs => (readNumber? 1 4 cs).map fun (n, rest) => ((n : Int), rest)

/-- The digits of a fraction as nanoseconds; those after the ninth are skipped. -/
def readFraction? (cs : List Char) : Option (Nat × List Char) := do
  let (n, rest) ← readNumber? 1 9 cs
  let count := cs.length - rest.length
  return (n * Nat.pow 10 (9 - count), (spanDigits rest).2)

/-- What follows `word`, in whichever case its letters are. -/
def afterWord? (word cs : List Char) : Option (List Char) :=
  if lowerAscii (cs.take word.length) = lowerAscii word then some (cs.drop word.length) else none

/-- The place of the first name whose three first letters the text begins with. -/
def readShortName? (names : List (List Char)) (cs : List Char) : Option (Nat × List Char) :=
  (names.findIdx? fun name => (afterWord? (name.take 3) cs).isSome).map fun i => (i, cs.drop 3)

/-- A name, either its first three letters or the whole of it. -/
def readName? (names : List (List Char)) (cs : List Char) : Option (Nat × List Char) :=
  (readShortName? names cs).map fun (i, rest) =>
    (i, (afterWord? ((names.getD i []).drop 3) rest).getD rest)

def readHalfOfDay? : List Char → Option (Nat × List Char)
  | a :: m :: rest =>
    if m.toLower = 'm' then
      if a.toLower = 'a' then some (0, rest) else if a.toLower = 'p' then some (1, rest) else none
    else none
  | _ => none

/-- True for a sign that goes west. -/
def readSign? : List Char → Option (Bool × List Char)
  | '+' :: cs => some (false, cs)
  | '-' :: cs => some (true, cs)
  | '\u2212' :: cs => some (true, cs)
  | _ => none

/-- A sign, two digits of hours, a separator and two digits of minutes, in seconds. -/
def readOffset? (separator : List Char → Option (List Char)) (cs : List Char) :
    Option (Int × List Char) := do
  let (west, cs) ← readSign? cs
  let (hours, cs) ← readNumber? 2 2 cs
  let cs ← separator cs
  let (minutes, cs) ← readNumber? 2 2 cs
  if minutes < 60 then
    let seconds : Int := hours * 3600 + minutes * 60
    some (if west then -seconds else seconds, cs)
  else none

def skipColonsAndBlanks (cs : List Char) : List Char := cs.dropWhile fun c => c = ':' || isBlank c

/-- The most digits that an unsigned field takes. -/
def Part.width : Part → Nat
  | .dayOfYear => 3
  | .nanos => 9
  | _ => 2

def readField? (f : Part) (p : DateParts) (cs : List Char) : Option (DateParts × List Char) :=
  match f with
  | .year => do
    let (n, rest) ← readYear? (trimStart cs)
    return (← p.setYear n, rest)
  | .monthShortName => do
    let (n, rest) ← readShortName? monthNames cs
    return (← p.setMonth (n + 1), rest)
  | .monthName => do
    let (n, rest) ← readName? monthNames cs
    return (← p.setMonth (n + 1), rest)
  | .weekdayShortName => do
    let (n, rest) ← readShortName? weekdayNames cs
    return (← p.setWeekday n, rest)
  | .weekdayName => do
    let (n, rest) ← readName? weekdayNames cs
    return (← p.setWeekday n, rest)
  | .halfOfDay => do
    let (n, rest) ← readHalfOfDay? cs
    return (← p.setHalf n, rest)
  | .fraction =>
    match cs with
    | '.' :: cs => do
      let (n, rest) ← readFraction? cs
      return (← p.setNanos n, rest)
    | _ => some (p, cs)
  | .offset | .offsetColon => do
    let (n, rest) ← readOffset? (fun cs => some (skipColonsAndBlanks cs)) (trimStart cs)
    return (← p.setOffset n, rest)
  | f => do
    let (n, rest) ← readNumber? 1 f.width (trimStart cs)
    return (← p.setNumber f n, rest)

def readItem? (item : Item) (p : DateParts) (cs : List Char) : Option (DateParts × List Char) :=
  match item with
  | .literal c => (afterStart? [c] cs).map fun rest => (p, rest)
  | .blank _ => some (p, trimStart cs)
  | .part f => readField? f p cs
  | .invalid => none

def readItems? : List Item → DateParts → List Char → Option (DateParts × List Char)
  | [], p, cs => some (p, cs)
  | item :: rest, p, cs => (readItem? item p cs).bind fun (p, cs) => readItems? rest p cs

/-- The parts that a whole text gives. -/
def read? (layout : List Item) (cs : List Char) : Option DateParts :=
  match readItems? layout {} cs with
  | some (p, []) => some p
  | _ => none

end Layout

namespace Instant

def readColon? : List Char → Option (List Char)
  | ':' :: cs => some cs
  | _ => none

/-- `Z`, or a signed offset with a colon that is less than a day. -/
def readStrictOffset? (cs : List Char) : Option (Int × List Char) :=
  match cs with
  | 'Z' :: rest => some (0, rest)
  | 'z' :: rest => some (0, rest)
  | cs => (Layout.readOffset? readColon? cs).bind fun (n, rest) =>
    if n.natAbs < 86400 then some (n, rest) else none

def readTwoDigits? (f : Layout.Part) (p : DateParts) (cs : List Char) :
    Option (DateParts × List Char) := do
  let (n, rest) ← Layout.readNumber? 2 2 cs
  return (← p.setNumber f n, rest)

/-- A full timestamp: all digits of the date and the time, and an offset. -/
def ofTimestamp? (cs : List Char) : Option Instant := do
  let (year, cs) ← Layout.readNumber? 4 4 cs
  let p ← DateParts.setYear {} year
  let (p, cs) ← readTwoDigits? .month p (← afterStart? ['-'] cs)
  let (p, cs) ← readTwoDigits? .day p (← afterStart? ['-'] cs)
  let cs ← match cs with
    | 'T' :: cs => some cs
    | 't' :: cs => some cs
    | ' ' :: cs => some cs
    | _ => none
  let (p, cs) ← readTwoDigits? .hour p cs
  let (p, cs) ← readTwoDigits? .minute p (← readColon? cs)
  let (p, cs) ← readTwoDigits? .second p (← readColon? cs)
  let (p, cs) ← Layout.readField? .fraction p cs
  let (offset, cs) ← readStrictOffset? cs
  let p ← p.setOffset offset
  if cs.isEmpty then p.resolveInstant? else none

end Instant

end ReportSearch
