import ReportSearch.Number.Double

/-!
# The shortest decimal of a double

The reals that round to a double form an interval around it. Going from coarse to fine through the
grids of multiples of a power of ten, the first grid with a point in the interval gives the fewest
digits, and of its two neighbours of the double the nearer one is taken. `Double.text` then writes
the digits positionally when the decimal exponent is from -5 to 15.
-/

set_option autoImplicit false

namespace ReportSearch

structure Decimal where
  digits : Nat
  power : Int
  deriving DecidableEq, Repr

namespace Double

/-- The interval of a double, its ends and middle over the common denominator `den`. -/
structure Interval where
  low : Nat
  mid : Nat
  high : Nat
  den : Nat
  closed : Bool

/-- Half a place on either side, a quarter below a power of two; the ends round to the double when
its significand is even. -/
def interval (x : Double) : Interval :=
  let m := x.significand
  let e := x.exponent - 2
  let below := if m = hidden ∧ hidden < x.rank then 1 else 2
  let up := if e < 0 then 1 else Nat.pow 2 e.toNat
  { low := (4 * m - below) * up
    mid := 4 * m * up
    high := (4 * m + 2) * up
    den := if e < 0 then Nat.pow 2 (-e).toNat else 1
    closed := m % 2 = 0 }

/-- Whether `num / den` lies in the interval; both sides are over one denominator. -/
def Interval.holds (i : Interval) (scaled : Nat) (scale : Nat) : Bool :=
  if i.closed then i.low * scale ≤ scaled && scaled ≤ i.high * scale
  else i.low * scale < scaled && scaled < i.high * scale

/-- The best multiple of `10 ^ power` in the interval, if there is one. -/
def Interval.onGrid (i : Interval) (power : Int) : Option Nat :=
  let scale := if power < 0 then Nat.pow 10 (-power).toNat else 1
  let unit := i.den * (if power < 0 then 1 else Nat.pow 10 power.toNat)
  let floor := i.mid * scale / unit
  let lower := if 0 < floor && i.holds (floor * unit) scale then some floor else none
  let upper := if i.holds ((floor + 1) * unit) scale then some (floor + 1) else none
  match lower, upper with
  | some a, some b =>
    let before := i.mid * scale - a * unit
    let after := b * unit - i.mid * scale
    some (if before < after then a else if after < before then b else if a % 2 = 0 then a else b)
  | some a, none => some a
  | none, found => found

def searchGrid (i : Interval) : Nat → Int → Option Decimal
  | 0, _ => none
  | fuel + 1, power =>
    match i.onGrid power with
    | some digits => some ⟨digits, power⟩
    | none => searchGrid i fuel (power - 1)

/-- A power of ten above the absolute value. -/
def coarsestPower (x : Double) : Int :=
  ((x.significand.log2 : Int) + 1 + x.exponent) * 30103 / 100000 + 1

/-- The fewest digits that read back as this finite double other than zero. -/
def shortest (x : Double) : Decimal :=
  (searchGrid x.interval 40 x.coarsestPower).getD ⟨0, 0⟩

/-- Which decimal exponents are written positionally. -/
structure NumeralStyle where
  least : Int
  greatest : Int

/-- The library's one style of writing a double. -/
def style : NumeralStyle := ⟨-5, 15⟩

def zeros (n : Nat) : List Char := List.replicate n '0'

/-- A decimal with at least one digit after its point. -/
def positional (digits : List Char) (exponent : Int) : List Char :=
  if exponent < 0 then
    ['0', '.'] ++ zeros ((-exponent).toNat - 1) ++ digits
  else
    let whole := exponent.toNat + 1
    if digits.length ≤ whole then digits ++ zeros (whole - digits.length) ++ ['.', '0']
    else digits.take whole ++ '.' :: digits.drop whole

def scientific (digits : List Char) (exponent : Int) : List Char :=
  let fraction := digits.drop 1
  digits.take 1 ++ (if fraction.isEmpty then [] else '.' :: fraction) ++
    'e' :: (if exponent < 0 then '-' else '+') :: (toString exponent.natAbs).toList

def text (x : Double) : String :=
  let sign := if x.negative then ['-'] else []
  if x.isZero then String.ofList (sign ++ ['0', '.', '0'])
  else
    let found := x.shortest
    let digits := (toString found.digits).toList
    let exponent := found.power + (digits.length - 1 : Nat)
    let body := if style.least ≤ exponent ∧ exponent ≤ style.greatest then
        positional digits exponent
      else scientific digits exponent
    String.ofList (sign ++ body)

/-- The text of any double without an exponent, and without a point when it is an integer. -/
def plainText (x : Double) : String :=
  let sign := if x.negative then ['-'] else []
  if !x.isFinite then String.ofList (sign ++ ['i', 'n', 'f'])
  else if x.isZero then String.ofList (sign ++ ['0'])
  else
    let found := x.shortest
    let digits := (toString found.digits).toList
    let body := if 0 ≤ found.power then digits ++ zeros found.power.toNat
      else positional digits (found.power + (digits.length - 1 : Nat))
    String.ofList (sign ++ body)

end Double

end ReportSearch
