import ReportSearch.Text.Blank
import ReportSearch.Number.Double

/-!
# Numbers written as plain text

Signed integers of 64 bits and doubles, as a whole text writes them: no blanks, a sign of either
kind, and for doubles a point and an exponent. The double is the nearest one to the text's value.
-/

set_option autoImplicit false

namespace ReportSearch

open Text

namespace Text

/-- A sign and what follows it; true for minus. -/
def cutSign : List Char → Bool × List Char
  | '-' :: cs => (true, cs)
  | '+' :: cs => (false, cs)
  | cs => (false, cs)

/-- The number that a text of nothing but digits denotes; there is at least one. -/
def allDigits? (cs : List Char) : Option Nat :=
  match spanDigits cs with
  | (d :: digits, []) => some (natOfDigits (d :: digits))
  | _ => none

def readInt? (cs : List Char) : Option Int :=
  let (negative, cs) := cutSign cs
  (allDigits? cs).map fun n => if negative then -(n : Int) else n

def readInt64? (text : String) : Option Int :=
  (readInt? text.toList).bind fun i =>
    if -0x8000000000000000 ≤ i ∧ i < 0x8000000000000000 then some i else none

/-- A natural number below `2 ^ 64`, with or without a plus sign. -/
def readNat64? (text : String) : Option Nat :=
  let digits := match text.toList with
    | '+' :: cs => cs
    | cs => cs
  (allDigits? digits).bind fun n => if n < 0x10000000000000000 then some n else none

end Text

namespace Double

def cutPoint : List Char → List Nat × List Char
  | '.' :: cs => spanDigits cs
  | cs => ([], cs)

def cutExponent? : List Char → Option Int
  | [] => some 0
  | 'e' :: cs => readInt? cs
  | 'E' :: cs => readInt? cs
  | _ => none

/-- The double of a decimal text; none for a text of another form. Beyond the range it is
infinite. -/
def ofText? (text : String) : Option Double :=
  let (negative, cs) := cutSign text.toList
  if ["inf", "infinity"].contains (String.ofList (lowerAscii cs)) then some (infinity negative)
  else
    let (whole, cs) := spanDigits cs
    let (fraction, cs) := cutPoint cs
    let digits := whole ++ fraction
    if digits.isEmpty then none
    else (cutExponent? cs).map fun e =>
      ofDecimal negative (natOfDigits digits) (e - fraction.length) digits.length

end Double

end ReportSearch
