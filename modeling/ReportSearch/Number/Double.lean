/-!
# Double precision numbers, exactly

A double is a sign and the place of its absolute value among the non-negative doubles, counted
from zero in increasing order. So the order of two doubles of one sign is the order of two natural
numbers, and every operation below is exact integer arithmetic followed by one rounding to nearest,
ties to even. Not-a-number does not occur: no operation that the library needs produces it.
-/

set_option autoImplicit false

namespace ReportSearch

structure Double where
  negative : Bool
  rank : Nat
  deriving DecidableEq, Repr, Inhabited

/-- The nearest integer to `num / den`, a half going to the even neighbour. -/
def roundDivEven (num den : Nat) : Nat :=
  let quotient := num / den
  let twice := 2 * (num % den)
  if twice < den then quotient
  else if den < twice then quotient + 1
  else quotient + quotient % 2

namespace Double

/-- Significands of normal doubles are at least this and less than twice this. -/
def hidden : Nat := 0x10000000000000

/-- The exponent of the last place of the smallest doubles. -/
def leastExponent : Int := -1074

/-- The rank of infinity; finite doubles lie below it. -/
def infiniteRank : Nat := 2047 * hidden

def isFinite (x : Double) : Bool := x.rank < infiniteRank

def isZero (x : Double) : Bool := x.rank = 0

def zero (negative : Bool) : Double := ⟨negative, 0⟩

def infinity (negative : Bool) : Double := ⟨negative, infiniteRank⟩

/-- The absolute value of a finite double is `significand * 2 ^ exponent`. -/
def significand (x : Double) : Nat :=
  if x.rank < hidden then x.rank else hidden + x.rank % hidden

def exponent (x : Double) : Int :=
  if x.rank < hidden then leastExponent else leastExponent + (x.rank / hidden - 1 : Nat)

/-- The absolute value of a finite double as a fraction. -/
def ratio (x : Double) : Nat × Nat :=
  let e := x.exponent
  if e < 0 then (x.significand, Nat.pow 2 (-e).toNat)
  else (x.significand * Nat.pow 2 e.toNat, 1)

/-- The exponent that leaves `num / den` a significand of 53 bits, or fewer at the lower end. -/
def exponentFor (num den : Nat) : Int :=
  let guess : Int := (num.log2 : Int) - den.log2 - 52
  let scaledBelow : Bool :=
    if guess < 0 then num * Nat.pow 2 (-guess).toNat < den * hidden
    else num < den * hidden * Nat.pow 2 guess.toNat
  let e := if scaledBelow then guess - 1 else guess
  max e leastExponent

/-- The double nearest to `num / den`; `den` is positive. -/
def ofRatio (negative : Bool) (num den : Nat) : Double :=
  if num = 0 then zero negative
  else
    let e := exponentFor num den
    let q := if e < 0 then roundDivEven (num * Nat.pow 2 (-e).toNat) den
      else roundDivEven num (den * Nat.pow 2 e.toNat)
    ⟨negative, min ((e - leastExponent).toNat * hidden + q) infiniteRank⟩

def ofNat (n : Nat) : Double := ofRatio false n 1

def ofInt (i : Int) : Double := ofRatio (decide (i < 0)) i.natAbs 1

def neg (x : Double) : Double := ⟨!x.negative, x.rank⟩

def mul (x y : Double) : Double :=
  let (a, b) := x.ratio
  let (c, d) := y.ratio
  ofRatio (x.negative != y.negative) (a * c) (b * d)

def div (x y : Double) : Double :=
  let (a, b) := x.ratio
  let (c, d) := y.ratio
  ofRatio (x.negative != y.negative) (a * d) (b * c)

/-- The double nearest to `digits * 10 ^ power`; `digits` has `count` decimal digits or fewer.
Far outside the range of doubles nothing is computed. -/
def ofDecimal (negative : Bool) (digits : Nat) (power : Int) (count : Nat) : Double :=
  if digits = 0 then zero negative
  else if (count : Int) + power < -400 then zero negative
  else if 400 < power then infinity negative
  else if power < 0 then ofRatio negative digits (Nat.pow 10 (-power).toNat)
  else ofRatio negative (digits * Nat.pow 10 power.toNat) 1

/-- The integer part of a finite double, with its sign. -/
def truncate (x : Double) : Int :=
  let (a, b) := x.ratio
  if x.negative then -((a / b : Nat) : Int) else ((a / b : Nat) : Int)

/-- The nearest integer, a half going away from zero. -/
def roundAway (x : Double) : Int :=
  let (a, b) := x.ratio
  let n : Int := ((2 * a + b) / (2 * b) : Nat)
  if x.negative then -n else n

end Double

end ReportSearch
