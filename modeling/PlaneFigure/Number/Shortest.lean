import PlaneFigure.Number.Binary64

/-!
# Decimals that read back

A double is written with the fewest decimal digits that no other double is nearer to, and
among those with the digits nearest to its value. The digits are found by trying the grids
of one, two, … seventeen digits in turn; on each grid only the two neighbours of the value
can qualify, and seventeen digits always suffice.

How the digits are laid out (where the point goes, when an exponent is used) is a separate
decision, recorded in `Layout`.
-/

namespace PlaneFigure

/-- A decimal magnitude, `digits * 10 ^ exponent`. -/
structure Decimal where
  digits : Nat
  exponent : Int
deriving DecidableEq

namespace Magnitude

/-- Four times the value, in units of a quarter of the last place: the value itself, and the
ends of the interval of numbers that round to it, all over one denominator. Below a power
of two the grid of doubles is twice as fine. -/
structure Interval where
  low : Nat
  value : Nat
  high : Nat
  denominator : Nat
  /-- Whether the ends round to the value too. -/
  closed : Bool

/-- The numbers that round to a magnitude. -/
def interval (magnitude : Magnitude) : Interval :=
  let fine := magnitude.significand = significandBound / 2 ∧ leastExponent < magnitude.exponent
  let unit := 1 <<< magnitude.exponent.toNat
  { low := (4 * magnitude.significand - (if fine then 1 else 2)) * unit
    value := 4 * magnitude.significand * unit
    high := (4 * magnitude.significand + 2) * unit
    denominator := 4 * magnitude.denominator
    closed := magnitude.significand % 2 == 0 }

/-- Whether a point `digits * 10 ^ exponent` lies in the interval. -/
def Interval.holds (interval : Interval) (point : Decimal) : Bool :=
  let scaled := point.digits * tenTo point.exponent.toNat * interval.denominator
  let unit := tenTo (-point.exponent).toNat
  if interval.closed then interval.low * unit ≤ scaled && scaled ≤ interval.high * unit
  else interval.low * unit < scaled && scaled < interval.high * unit

/-- The exponent of the greatest power of ten that is at most a positive quotient, looked
for downwards from a starting exponent. -/
def decimalOrder (numerator denominator : Nat) : Nat → Int → Int
  | 0, exponent => exponent
  | tries + 1, exponent =>
    if denominator * tenTo exponent.toNat ≤ numerator * tenTo (-exponent).toNat then exponent
    else decimalOrder numerator denominator tries (exponent - 1)

/-- The nearer of the value's two neighbours on the grid of multiples of `10 ^ exponent`,
as far as they lie in the interval. From the midpoint the even one is taken. -/
def neighbour? (interval : Interval) (exponent : Int) : Option Decimal :=
  let numerator := interval.value * tenTo (-exponent).toNat
  let denominator := interval.denominator * tenTo exponent.toNat
  let below : Decimal := ⟨numerator / denominator, exponent⟩
  let above : Decimal := ⟨numerator / denominator + 1, exponent⟩
  match 0 < below.digits && interval.holds below, interval.holds above with
  | true, true => some ⟨roundQuotient numerator denominator, exponent⟩
  | true, false => some below
  | false, true => some above
  | false, false => none

/-- The first of several grids, each ten times as fine as the one before, that has a
neighbour in the interval. -/
def firstNeighbour? (interval : Interval) : Nat → Int → Option Decimal
  | 0, _ => none
  | tries + 1, exponent =>
    (neighbour? interval exponent).orElse fun _ => firstNeighbour? interval tries (exponent - 1)

/-- Move trailing zeros of the digits into the exponent. -/
def stripZeros : Nat → Decimal → Decimal
  | 0, decimal => decimal
  | tries + 1, decimal =>
    if decimal.digits % 10 = 0 then stripZeros tries ⟨decimal.digits / 10, decimal.exponent + 1⟩
    else decimal

/-- The decimal with the fewest digits that reads back as a positive magnitude. -/
def shortest (magnitude : Magnitude) : Decimal :=
  let order := decimalOrder magnitude.numerator magnitude.denominator 640 310
  match firstNeighbour? magnitude.interval 17 order with
  | some decimal => stripZeros 20 decimal
  | none => ⟨0, 0⟩

end Magnitude

/-- How the digits of a decimal are laid out. The position of the point is counted from the
left end of the digits. -/
structure Layout where
  /-- The point is written out only up to this position. -/
  lastPosition : Int
  /-- The point is written out only from this position on. -/
  firstPosition : Int
  /-- What stands behind the digits of an integral number. -/
  integralEnd : String
  /-- What introduces an exponent. -/
  exponentMark : String
  /-- What stands before an exponent that is not negative. -/
  plus : String

/-- Lay out a positive decimal. -/
def Layout.write (layout : Layout) (decimal : Decimal) : String :=
  let digits := (toString decimal.digits).toList
  let point : Int := digits.length + decimal.exponent
  let zeros (count : Int) := List.replicate count.toNat '0'
  if point < layout.firstPosition || layout.lastPosition < point then
    String.ofList (digits.take 1) ++
      (if digits.length = 1 then "" else "." ++ String.ofList (digits.drop 1)) ++
      layout.exponentMark ++ (if point < 1 then "" else layout.plus) ++ toString (point - 1)
  else if point ≤ 0 then "0." ++ String.ofList (zeros (-point) ++ digits)
  else if 0 ≤ decimal.exponent then
    String.ofList (digits ++ zeros decimal.exponent) ++ layout.integralEnd
  else
    String.ofList (digits.take point.toNat) ++ "." ++ String.ofList (digits.drop point.toNat)

/-- Doubles are written out from `0.00001` up to sixteen digits before the point, always
with a point; an exponent always has a sign and is not padded. -/
def Binary64.layout : Layout :=
  { lastPosition := 16, firstPosition := -4, integralEnd := ".0", exponentMark := "e",
    plus := "+" }

/-- The text of a double. -/
def Binary64.text (value : Binary64) : String :=
  (if value.negative then "-" else "") ++
    if value.magnitude.isZero then "0.0" else layout.write value.magnitude.shortest

end PlaneFigure
