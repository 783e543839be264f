import ReportSearch.Time.Instant
import ReportSearch.Text.Blank

/-!
# Date layouts

A layout is a text in which a percent sign and the letters after it stand for a part of a date or a
time, a doubled percent sign stands for itself, and all else stands for itself. `Layout.items`
splits such a text; `render` writes an instant by it. Reading is in `Time.Reading`.
-/

set_option autoImplicit false

namespace ReportSearch.Layout

/-- The parts of a date, a time and an offset that a layout can name. -/
inductive Part where
  | year
  /-- The last two digits of the year. -/
  | yearOfCentury
  | month
  | monthShortName
  | monthName
  | day
  | dayOfYear
  | weekdayShortName
  | weekdayName
  | hour
  /-- The hour on a dial of twelve. -/
  | hourOfHalf
  | minute
  | second
  | halfOfDay
  /-- Nanoseconds as a whole number of nine digits. -/
  | nanos
  /-- A point and the digits of the fraction, or nothing for a whole second. -/
  | fraction
  | offset
  /-- The offset with a colon between hours and minutes. -/
  | offsetColon
  deriving DecidableEq, Repr

inductive Item where
  | literal (c : Char)
  /-- A blank character, which stands for any blanks when a text is read. -/
  | blank (c : Char)
  | part (f : Part)
  | invalid
  deriving DecidableEq, Repr

/-- The letters after the percent sign. -/
def Part.code : Part → List Char
  | .year => ['Y']
  | .yearOfCentury => ['y']
  | .month => ['m']
  | .monthShortName => ['b']
  | .monthName => ['B']
  | .day => ['d']
  | .dayOfYear => ['j']
  | .weekdayShortName => ['a']
  | .weekdayName => ['A']
  | .hour => ['H']
  | .hourOfHalf => ['I']
  | .minute => ['M']
  | .second => ['S']
  | .halfOfDay => ['p']
  | .nanos => ['f']
  | .fraction => ['.', 'f']
  | .offset => ['z']
  | .offsetColon => [':', 'z']

def literalItem (c : Char) : Item := if Text.isBlank c then .blank c else .literal c

def letterField? : Char → Option Part
  | 'Y' => some .year
  | 'y' => some .yearOfCentury
  | 'm' => some .month
  | 'b' => some .monthShortName
  | 'B' => some .monthName
  | 'd' => some .day
  | 'j' => some .dayOfYear
  | 'a' => some .weekdayShortName
  | 'A' => some .weekdayName
  | 'H' => some .hour
  | 'I' => some .hourOfHalf
  | 'M' => some .minute
  | 'S' => some .second
  | 'p' => some .halfOfDay
  | 'f' => some .nanos
  | 'z' => some .offset
  | _ => none

def letterItem (c : Char) : Item :=
  match letterField? c with
  | some f => .part f
  | none => .invalid

def items : List Char → List Item
  | [] => []
  | '%' :: '%' :: rest => .literal '%' :: items rest
  | '%' :: '.' :: 'f' :: rest => .part .fraction :: items rest
  | '%' :: ':' :: 'z' :: rest => .part .offsetColon :: items rest
  | '%' :: c :: rest => letterItem c :: items rest
  | ['%'] => [.invalid]
  | c :: rest => literalItem c :: items rest

def monthNames : List (List Char) :=
  ["January", "February", "March", "April", "May", "June", "July", "August", "September",
    "October", "November", "December"].map String.toList

def weekdayNames : List (List Char) :=
  ["Monday", "Tuesday", "Wednesday", "Thursday", "Friday", "Saturday", "Sunday"].map String.toList

def padded (width n : Nat) : List Char :=
  let digits := (toString n).toList
  List.replicate (width - digits.length) '0' ++ digits

/-- Four digits, or a sign and at least four outside the years 0 to 9999. -/
def yearText (year : Int) : List Char :=
  if 0 ≤ year ∧ year ≤ 9999 then padded 4 year.toNat
  else (if year < 0 then '-' else '+') :: padded 4 year.natAbs

/-- A point and three, six or nine digits; nothing for a whole second. -/
def fractionText (nanos : Nat) : List Char :=
  if nanos = 0 then []
  else if nanos % 1000000 = 0 then '.' :: padded 3 (nanos / 1000000)
  else if nanos % 1000 = 0 then '.' :: padded 6 (nanos / 1000)
  else '.' :: padded 9 nanos

def hourOfHalf (hour : Nat) : Nat := if hour % 12 = 0 then 12 else hour % 12

def renderField (t : Instant) : Part → List Char
  | .year => yearText t.date.year
  | .yearOfCentury => padded 2 (t.date.year % 100).toNat
  | .month => padded 2 t.date.month
  | .monthShortName => (monthNames.getD (t.date.month - 1) []).take 3
  | .monthName => monthNames.getD (t.date.month - 1) []
  | .day => padded 2 t.date.day
  | .dayOfYear => padded 3 t.date.dayOfYear
  | .weekdayShortName => (weekdayNames.getD t.date.weekday []).take 3
  | .weekdayName => weekdayNames.getD t.date.weekday []
  | .hour => padded 2 t.hour
  | .hourOfHalf => padded 2 (hourOfHalf t.hour)
  | .minute => padded 2 t.minute
  | .second => padded 2 t.second
  | .halfOfDay => if t.hour < 12 then ['A', 'M'] else ['P', 'M']
  | .nanos => padded 9 t.fraction
  | .fraction => fractionText t.fraction
  | .offset => ['+', '0', '0', '0', '0']
  | .offsetColon => ['+', '0', '0', ':', '0', '0']

def renderItem (t : Instant) : Item → List Char
  | .literal c => [c]
  | .blank c => [c]
  | .part f => renderField t f
  | .invalid => []

def renderItems (t : Instant) (layout : List Item) : List Char := layout.flatMap (renderItem t)

/-- An instant, without offset, written by a layout text. -/
def render (layout : List Char) (t : Instant) : String :=
  String.ofList (renderItems t (items layout))

end Layout

namespace Instant

/-- The layout of a timestamp before its offset. -/
def stampLayout : List Layout.Item :=
  [.part .year, .literal '-', .part .month, .literal '-', .part .day, .literal 'T',
    .part .hour, .literal ':', .part .minute, .literal ':', .part .second, .part .fraction]

/-- The timestamp with `Z` as its offset. -/
def text (t : Instant) : String := String.ofList (Layout.renderItems t stampLayout ++ ['Z'])

/-- The timestamp with `+00:00` as its offset. -/
def offsetText (t : Instant) : String :=
  String.ofList (Layout.renderItems t (stampLayout ++ [.part .offsetColon]))

end Instant

end ReportSearch
