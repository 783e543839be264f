import ReportSearch.Json.Value
import ReportSearch.Text.Blank

/-!
# JSON numerals

The grammar of a JSON number, and the number that it denotes. A numeral without fraction and
exponent that fits 64 bits is an integer. Any other is a double: its digits are gathered into an
unsigned 64-bit significand for as long as they fit, later digits are dropped, and the significand
is scaled by powers of ten that are doubles themselves. So the last place may differ from the
nearest double, and a numeral beyond the range has no value.
-/

set_option autoImplicit false

namespace ReportSearch

/-- The parts of a JSON number; an exponent has a sign and digits. -/
structure Numeral where
  negative : Bool
  whole : List Nat
  fraction : List Nat
  exponent : Option (Bool × List Nat)
  deriving Repr

namespace Numeral

open Text

def readFraction? : List Char → Option (List Nat × List Char)
  | '.' :: cs =>
    match spanDigits cs with
    | ([], _) => none
    | (digits, rest) => some (digits, rest)
  | cs => some ([], cs)

def readExponentDigits? (negative : Bool) (cs : List Char) :
    Option (Option (Bool × List Nat) × List Char) :=
  match spanDigits cs with
  | ([], _) => none
  | (digits, rest) => some (some (negative, digits), rest)

def readExponent? : List Char → Option (Option (Bool × List Nat) × List Char)
  | 'e' :: '-' :: cs => readExponentDigits? true cs
  | 'e' :: '+' :: cs => readExponentDigits? false cs
  | 'e' :: cs => readExponentDigits? false cs
  | 'E' :: '-' :: cs => readExponentDigits? true cs
  | 'E' :: '+' :: cs => readExponentDigits? false cs
  | 'E' :: cs => readExponentDigits? false cs
  | cs => some (none, cs)

/-- Digits without a needless zero in front. -/
def readWhole? (cs : List Char) : Option (List Nat × List Char) :=
  match spanDigits cs with
  | ([], _) => none
  | (0 :: _ :: _, _) => none
  | (digits, rest) => some (digits, rest)

/-- A numeral at the start of a text, and what follows it. -/
def read? (cs : List Char) : Option (Numeral × List Char) := do
  let (negative, cs) := match cs with
    | '-' :: cs => (true, cs)
    | cs => (false, cs)
  let (whole, cs) ← readWhole? cs
  let (fraction, cs) ← readFraction? cs
  let (exponent, cs) ← readExponent? cs
  return (⟨negative, whole, fraction, exponent⟩, cs)

/-- Appends digits to a significand while it fits 64 bits; the second part is what is left. -/
def gather : Nat → List Nat → Nat × List Nat
  | significand, [] => (significand, [])
  | significand, d :: ds =>
    if significand * 10 + d ≤ Number.greatestNat64 then gather (significand * 10 + d) ds
    else (significand, d :: ds)

/-- The greatest power of ten in the table of exact scalings. -/
def tablePower : Nat := 308

def powerOfTen (n : Nat) : Double := Double.ofNat (Nat.pow 10 n)

/-- Divides by the table's greatest power until the exponent is in the table. -/
def scaleDown : Nat → Double → Nat → Double
  | 0, x, _ => x
  | fuel + 1, x, power =>
    if power ≤ tablePower then x.div (powerOfTen power)
    else if x.isZero then x
    else scaleDown fuel (x.div (powerOfTen tablePower)) (power - tablePower)

/-- `significand * 10 ^ power` as the table's powers give it; none beyond the range. -/
def scale? (significand : Nat) (power : Int) : Option Double :=
  let x := Double.ofNat significand
  if power < 0 then some (scaleDown 8 x power.natAbs)
  else if power ≤ tablePower then
    let y := x.mul (powerOfTen power.toNat)
    if y.isFinite then some y else none
  else if x.isZero then some x
  else none

/-- Exponents from here on are not computed with. -/
def exponentLimit : Nat := 0x7fffffff

def double? (n : Numeral) : Option Double :=
  let (head, dropped) := gather 0 n.whole
  let (significand, unread) := gather head n.fraction
  let shift : Int := dropped.length - (n.fraction.length - unread.length : Nat)
  let magnitude? := match n.exponent with
    | none => scale? significand shift
    | some (negative, digits) =>
      let e := natOfDigits digits
      if exponentLimit < e then
        if significand = 0 || negative then some (Double.zero false) else none
      else scale? significand (if negative then shift - e else shift + e)
  magnitude?.map fun x => if n.negative then x.neg else x

def value? (n : Numeral) : Option Number :=
  let magnitude := natOfDigits n.whole
  if n.fraction.isEmpty && n.exponent.isNone && magnitude ≤ Number.greatestNat64 then
    if !n.negative then some (.int magnitude)
    else if magnitude = 0 ∨ magnitude > 0x8000000000000000 then
      some (.double (Double.ofNat magnitude).neg)
    else some (.int (-magnitude))
  else n.double?.map .double

end Numeral

end ReportSearch
