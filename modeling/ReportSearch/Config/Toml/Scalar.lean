import ReportSearch.Config.Setting
import ReportSearch.Config.Toml.Text
import ReportSearch.Time.Calendar

/-!
# Numbers and dates of TOML

Integers are of 64 bits, in base ten with a sign or in base two, eight or sixteen without one; an
underscore may part two digits. A number with a fraction or an exponent is a double, and may not be
beyond the greatest one. Dates and times are kept as texts of one form.
-/

set_option autoImplicit false

namespace ReportSearch.Toml

open Text

/-- Digits up to the base, with underscores between them. -/
def spanParted (base : Nat) : List Char → List Nat × List Char
  | '_' :: c :: cs =>
    match (hexDigit? c).filter (· < base) with
    | some d =>
      let (digits, rest) := spanParted base cs
      (d :: digits, rest)
    | none => ([], '_' :: c :: cs)
  | c :: cs =>
    match (hexDigit? c).filter (· < base) with
    | some d =>
      let (digits, rest) := spanParted base cs
      (d :: digits, rest)
    | none => ([], c :: cs)
  | [] => ([], [])

def readDigits? (base : Nat) : List Char → Option (List Nat × List Char)
  | '_' :: _ => none
  | cs =>
    match spanParted base cs with
    | ([], _) => none
    | found => some found

/-- Digits of which the first is zero only if it is the last. -/
def readWhole? : List Char → Option (List Nat × List Char)
  | '0' :: cs => some ([0], cs)
  | cs => readDigits? 10 cs

def readFraction? : List Char → Option (List Nat × List Char)
  | '.' :: cs => readDigits? 10 cs
  | cs => some ([], cs)

def readExponent? : List Char → Option (Option Int × List Char)
  | c :: cs =>
    if c = 'e' ∨ c = 'E' then
      let (negative, cs) := cutSign cs
      (readDigits? 10 cs).map fun (digits, rest) =>
        let n := natOfDigits digits
        (some (if negative then -(n : Int) else n), rest)
    else some (none, c :: cs)
  | [] => some (none, [])

def integerOf? (i : Int) : Option Setting :=
  if -0x8000000000000000 ≤ i ∧ i < 0x8000000000000000 then some (.integer i) else none

def realOf? (x : Double) : Option Setting :=
  if x.isFinite || x.negative then some (.real x) else none

def readDecimal? (negative : Bool) (cs : List Char) : Option (Setting × List Char) := do
  let (whole, cs) ← readWhole? cs
  let (fraction, cs) ← readFraction? cs
  let (exponent, cs) ← readExponent? cs
  if fraction.isEmpty && exponent.isNone then
    let n := natOfDigits whole
    let value ← integerOf? (if negative then -(n : Int) else n)
    return (value, cs)
  else
    let digits := whole ++ fraction
    let power := exponent.getD 0 - fraction.length
    let value ← realOf? (Double.ofDecimal negative (natOfDigits digits) power digits.length)
    return (value, cs)

def readInBase? (base : Nat) (cs : List Char) : Option (Setting × List Char) := do
  let (digits, cs) ← readDigits? base cs
  let value ← integerOf? (digits.foldl (fun n d => base * n + d) 0 : Nat)
  return (value, cs)

def readSigned? (cs : List Char) : Option (Setting × List Char) :=
  match cutSign cs with
  | (negative, 'i' :: 'n' :: 'f' :: rest) => some (.real (Double.infinity negative), rest)
  | (_, 'n' :: 'a' :: 'n' :: rest) => some (.notANumber, rest)
  | (negative, cs) => readDecimal? negative cs

def readNumber? : List Char → Option (Setting × List Char)
  | '0' :: 'x' :: cs => readInBase? 16 cs
  | '0' :: 'o' :: cs => readInBase? 8 cs
  | '0' :: 'b' :: cs => readInBase? 2 cs
  | cs => readSigned? cs

/-- So many digits, and the number that they denote. -/
def readPlaces? (count : Nat) (cs : List Char) : Option (Nat × List Char) :=
  match allDigits? (cs.take count) with
  | some n => if (cs.take count).length = count then some (n, cs.drop count) else none
  | none => none

def writePlaces (count n : Nat) : List Char :=
  let digits := (toString n).toList
  List.replicate (count - digits.length) '0' ++ digits

/-- Two digits whose number lies between two others, as they are written. -/
def readPair? (least greatest : Nat) (cs : List Char) : Option (List Char × List Char) := do
  let (n, rest) ← readPlaces? 2 cs
  if least ≤ n ∧ n ≤ greatest then some (writePlaces 2 n, rest) else none

def readDate? (cs : List Char) : Option (List Char × List Char) := do
  let (year, cs) ← readPlaces? 4 cs
  let (month, cs) ← readPlaces? 2 (← afterStart? ['-'] cs)
  let (day, cs) ← readPlaces? 2 (← afterStart? ['-'] cs)
  if 1 ≤ month ∧ month ≤ 12 ∧ 1 ≤ day ∧ day ≤ Date.monthLength year month then
    some (writePlaces 4 year ++ '-' :: writePlaces 2 month ++ '-' :: writePlaces 2 day, cs)
  else none

/-- The first nine digits of a fraction without the zeros at their end. -/
def readSecondFraction? : List Char → Option (List Char × List Char)
  | '.' :: cs =>
    let isDigit := fun c => (digit? c).isSome
    let digits := cs.takeWhile isDigit
    if digits.isEmpty then none
    else
      let kept := ((digits.take 9).reverse.dropWhile (· = '0')).reverse
      some (if kept.isEmpty then [] else '.' :: kept, cs.dropWhile isDigit)
  | cs => some ([], cs)

def readTime? (cs : List Char) : Option (List Char × List Char) := do
  let (hour, cs) ← readPair? 0 23 cs
  let (minute, cs) ← readPair? 0 59 (← afterStart? [':'] cs)
  let (second, cs) ← readPair? 0 60 (← afterStart? [':'] cs)
  let (fraction, cs) ← readSecondFraction? cs
  return (hour ++ ':' :: minute ++ ':' :: second ++ fraction, cs)

/-- `Z` or a signed distance; no distance has a plus sign. Without either the text is empty. -/
def readOffset? : List Char → Option (List Char × List Char)
  | [] => some ([], [])
  | c :: cs =>
    if c = 'Z' ∨ c = 'z' then some (['Z'], cs)
    else if c = '+' ∨ c = '-' then do
      let (hour, cs) ← readPair? 0 23 cs
      let (minute, cs) ← readPair? 0 59 (← afterStart? [':'] cs)
      let distance := hour ++ ':' :: minute
      let sign := if distance = ['0', '0', ':', '0', '0'] then '+' else c
      return (sign :: distance, cs)
    else some ([], c :: cs)

def isTimeMark (c : Char) : Bool := c = 'T' || c = 't' || c = ' '

def readTimeOfDate? : List Char → Option (List Char × List Char)
  | c :: cs =>
    if isTimeMark c then do
      let (time, cs) ← readTime? cs
      let (offset, cs) ← readOffset? cs
      return ('T' :: time ++ offset, cs)
    else none
  | [] => none

def readMoment? (cs : List Char) : Option (Setting × List Char) :=
  match readDate? cs with
  | some (date, rest) =>
    match readTimeOfDate? rest with
    | some (time, rest) => some (.text (String.ofList (date ++ time)), rest)
    | none => some (.text (String.ofList date), rest)
  | none => (readTime? cs).map fun (time, rest) => (.text (String.ofList time), rest)

end ReportSearch.Toml
