import ReportSearch.Json.Value
import ReportSearch.Number.Integer
import ReportSearch.Time.Reading

/-!
# Date formats

A date field accepts its dates in formats that it declares: a name, or a pattern of letters whose
runs stand for parts of a date, quoted text and plain characters. Every pattern is turned into a
layout text, by which dates are then read and written.

Within a quoted text two quotes in a row give one quote character and end the quoted text.
-/

set_option autoImplicit false

namespace ReportSearch

open Layout (Part Item)

namespace DatePattern

/-- A pattern letter, a character that stands for itself, or the end of a quoted text. -/
inductive Token where
  | letter (c : Char)
  | literal (c : Char)
  | gap
  deriving DecidableEq, Repr

inductive State where
  | plain
  | quoted
  /-- After a quote that closes a quoted text, unless another quote follows. -/
  | closing
  deriving DecidableEq, Repr

def plainToken (c : Char) : Token := if c.isAlpha then .letter c else .literal c

/-- Splits a pattern into tokens; the state at the end tells whether a quoted text is open. -/
def tokens : State → List Char → List Token × State
  | state, [] => ([], state)
  | .quoted, '\'' :: cs =>
    let (rest, state) := tokens .closing cs
    (.gap :: rest, state)
  | .quoted, c :: cs =>
    let (rest, state) := tokens .quoted cs
    (.literal c :: rest, state)
  | .closing, '\'' :: cs =>
    let (rest, state) := tokens .plain cs
    (.literal '\'' :: rest, state)
  | _, '\'' :: cs => tokens .quoted cs
  | _, c :: cs =>
    let (rest, state) := tokens .plain cs
    (plainToken c :: rest, state)

/-- A run of one pattern letter, or a character that stands for itself. -/
inductive Piece where
  | run (c : Char) (length : Nat)
  | literal (c : Char)
  deriving DecidableEq, Repr

/-- Joins equal letters that follow each other; `open?` is the run before the tokens. -/
def pieces : Option (Char × Nat) → List Token → List Piece
  | none, [] => []
  | some (c, n), [] => [.run c n]
  | none, .letter c :: rest => pieces (some (c, 1)) rest
  | some (d, n), .letter c :: rest =>
    if c = d then pieces (some (d, n + 1)) rest else .run d n :: pieces (some (c, 1)) rest
  | none, .literal c :: rest => .literal c :: pieces none rest
  | some (d, n), .literal c :: rest => .run d n :: .literal c :: pieces none rest
  | none, .gap :: rest => pieces none rest
  | some (d, n), .gap :: rest => .run d n :: pieces none rest

/-- The part of a date that a run of a letter stands for; a run of `S` is left to `emit`. -/
def runField? (c : Char) (length : Nat) : Option Part :=
  match c with
  | 'y' => some (if length = 2 then .yearOfCentury else .year)
  | 'Y' | 'u' => some .year
  | 'M' =>
    some (if length ≤ 2 then .month else if length = 3 then .monthShortName else .monthName)
  | 'd' => some .day
  | 'D' => some .dayOfYear
  | 'E' => some (if length ≤ 3 then .weekdayShortName else .weekdayName)
  | 'H' => some .hour
  | 'h' => some .hourOfHalf
  | 'm' => some .minute
  | 's' => some .second
  | 'a' => some .halfOfDay
  | 'S' => some .nanos
  | 'Z' => some (if length = 1 then .offset else .offsetColon)
  | 'X' | 'x' => some .offsetColon
  | _ => none

/-- Appends the layout item of a piece to the items before it, which are held in reverse. A run of
`S` takes a point before it into the fraction. The error is a letter that stands for nothing. -/
def emit (before : List Item) : Piece → Except Char (List Item)
  | .literal c => .ok (Layout.literalItem c :: before)
  | .run c length =>
    match runField? c length with
    | none => .error c
    | some .nanos =>
      match before with
      | .literal '.' :: earlier => .ok (.part .fraction :: earlier)
      | _ => .ok (.part .nanos :: before)
    | some f => .ok (.part f :: before)

def emitAll : List Item → List Piece → Except Char (List Item)
  | before, [] => .ok before.reverse
  | before, piece :: rest =>
    match emit before piece with
    | .ok items => emitAll items rest
    | .error c => .error c

end DatePattern

namespace Layout

def Item.source : Item → List Char
  | .literal '%' => ['%', '%']
  | .literal c => [c]
  | .blank c => [c]
  | .part f => '%' :: f.code
  | .invalid => ['%']

end Layout

inductive DateNotation where
  | epochSeconds
  | epochMillis
  /-- A date with an optional time and offset. -/
  | timestamp
  /-- A layout text. A date without a time starts at midnight, and one without an offset is in
  universal time. -/
  | layout (template : List Char) (hasTime : Bool) (hasOffset : Bool)
  deriving DecidableEq, Repr

structure DateFormat where
  pattern : String
  shape : DateNotation
  deriving DecidableEq, Repr

/-- Why a text is no date format. -/
inductive DateFormatFault where
  | empty
  | unterminated (pattern : String)
  | unsupportedLetter (letter : Char) (pattern : String)
  deriving DecidableEq, Repr

namespace DateFormatFault

def message : DateFormatFault → String
  | empty => "empty date format"
  | unterminated pattern => "unterminated literal in date format '" ++ pattern ++ "'"
  | unsupportedLetter c pattern =>
    "unsupported pattern letter '" ++ c.toString ++ "' in date format '" ++ pattern ++ "'"

end DateFormatFault

namespace DatePattern

def layoutItems (pattern : String) : Except DateFormatFault (List Item) :=
  let (found, state) := tokens .plain pattern.toList
  match emitAll [] (pieces none found) with
  | .error c => .error (.unsupportedLetter c pattern)
  | .ok items => if state = .quoted then .error (.unterminated pattern) else .ok items

def isTimeItem : Item → Bool
  | .part .hour => true
  | .part .hourOfHalf => true
  | _ => false

def isOffsetItem : Item → Bool
  | .part .offset => true
  | .part .offsetColon => true
  | _ => false

def toNotation (pattern : String) : Except DateFormatFault DateNotation :=
  (layoutItems pattern).map fun items =>
    .layout (items.flatMap Item.source) (items.any isTimeItem) (items.any isOffsetItem)

end DatePattern

namespace DateFormat

/-- What a date field accepts that declares no format. -/
def defaultFormats : String := "strict_date_optional_time||epoch_millis"

def timestampNames : List String :=
  ["date_optional_time", "strict_date_optional_time", "date_time", "strict_date_time",
    "date_time_no_millis", "strict_date_time_no_millis"]

def dayNames : List String := ["date", "strict_date", "year_month_day", "strict_year_month_day"]

def notationOf (pattern : String) : Except DateFormatFault DateNotation :=
  if pattern = "" then .error .empty
  else if pattern = "epoch_second" then .ok .epochSeconds
  else if pattern = "epoch_millis" then .ok .epochMillis
  else if timestampNames.contains pattern then .ok .timestamp
  else if dayNames.contains pattern then .ok (.layout "%Y-%m-%d".toList false false)
  else if pattern = "basic_date" then .ok (.layout "%Y%m%d".toList false false)
  else DatePattern.toNotation pattern

/-- One format; blanks around it are dropped. -/
def ofText (text : String) : Except DateFormatFault DateFormat :=
  let pattern := Text.trim text
  (notationOf pattern).map fun shape => ⟨pattern, shape⟩

def splitBars : List Char → List (List Char)
  | [] => [[]]
  | '|' :: '|' :: cs => [] :: splitBars cs
  | c :: cs =>
    match splitBars cs with
    | [] => [[c]]
    | piece :: pieces => (c :: piece) :: pieces

/-- Formats joined by double bars, in order. -/
def listOfText (text : String) : Except DateFormatFault (List DateFormat) :=
  (splitBars text.toList).mapM fun cs => ofText (String.ofList cs)

def isEpoch (format : DateFormat) : Bool :=
  match format.shape with
  | .epochSeconds | .epochMillis => true
  | _ => false

/-- A timestamp, else a date and a time without an offset, else a date alone. -/
def readTimestamp? (cs : List Char) : Option Instant :=
  (Instant.ofTimestamp? cs)
    <|> ((Layout.read? (Layout.items "%Y-%m-%dT%H:%M:%S%.f".toList) cs).bind
      DateParts.resolveLocal?)
    <|> ((Layout.read? (Layout.items "%Y-%m-%dT%H:%M".toList) cs).bind DateParts.resolveLocal?)
    <|> ((Layout.read? (Layout.items "%Y-%m-%d".toList) cs).bind DateParts.resolveMidnight?)

def readAtOffset? (items : List Item) (cs : List Char) : Option Instant :=
  (Layout.read? items cs).bind DateParts.resolveInstant?

/-- Reads by a layout. Where an offset is due, a final `Z` stands for universal time as well. -/
def readLayout? (template : List Char) (hasTime hasOffset : Bool) (cs : List Char) :
    Option Instant :=
  let items := Layout.items template
  if hasOffset then
    readAtOffset? items cs <|> (Text.beforeEnd? ['Z'] cs).bind fun start =>
      readAtOffset? items (start ++ "+00:00".toList)
        <|> readAtOffset? items (start ++ "+0000".toList)
  else if hasTime then (Layout.read? items cs).bind DateParts.resolveLocal?
  else (Layout.read? items cs).bind DateParts.resolveMidnight?

/-- The instant that a text denotes in this format. -/
def read? (format : DateFormat) (text : String) : Option Instant :=
  let text := Text.trim text
  match format.shape with
  | .epochSeconds => (Text.readInt64? text).bind (Instant.ofStamp? · 0)
  | .epochMillis => (Text.readInt64? text).bind Instant.ofMillis?
  | .timestamp => readTimestamp? text.toList
  | .layout template hasTime hasOffset => readLayout? template hasTime hasOffset text.toList

/-- An instant in this format, as it is stored. -/
def write (format : DateFormat) (t : Instant) : Json :=
  match format.shape with
  | .epochSeconds => .ofInt t.seconds
  | .epochMillis => .ofInt t.millis
  | .timestamp => .str t.offsetText
  | .layout template _ _ => .str (Layout.render template t)

end DateFormat

end ReportSearch
