import PlaneFigure.Number.Binary64

/-!
# Decimal literals

A literal has a sign, whole digits, and possibly a fraction and an exponent. A literal with
neither of these that fits a 64-bit word, signed or unsigned, is an integer. Every other
literal is read as a double in steps that each round: the digits that fit 64 bits make a
whole number, that is rounded, and the result is multiplied or divided by a rounded power of
ten. Literals beyond the largest double are out of range.

Because every step rounds, the result is not always the double nearest to the literal.
-/

namespace PlaneFigure

/-- A number as it is read: an integer of at most 64 bits, or a double. -/
inductive Number where
  | integer (value : Int)
  | real (value : Binary64)
deriving DecidableEq

/-- The parts of a decimal literal, digits as numbers below ten. -/
structure Literal where
  negative : Bool
  whole : List Nat
  fraction : Option (List Nat)
  /-- The sign and the digits of the exponent; `true` stands for minus. -/
  exponent : Option (Bool × List Nat)

namespace Literal

/-- Significands stay below this bound. -/
def wordBound : Nat := UInt64.size

/-- Exponents as they are written stay below this bound. -/
def exponentBound : Nat := UInt32.size / 2

/-- Append digits to a number as long as the result is below a bound. Also returns the
digits from the first that does not fit on. -/
def appendDigits (bound : Nat) : Nat → List Nat → Nat × List Nat
  | value, [] => (value, [])
  | value, digit :: rest =>
    if value * 10 + digit < bound then appendDigits bound (value * 10 + digit) rest
    else (value, digit :: rest)

/-- The digits that count, as a whole number with a power of ten. Whole digits that do not
fit raise the power; digits of the fraction that do not fit are dropped. -/
def significand (literal : Literal) : Nat × Int :=
  let (whole, excess) := appendDigits wordBound 0 literal.whole
  let digits := literal.fraction.getD []
  let (value, dropped) := appendDigits wordBound whole digits
  (value, (excess.length : Int) - ((digits.length : Int) - (dropped.length : Int)))

/-- The largest power of ten that is used in one step. -/
def largestPower : Nat := 308

/-- The double nearest to a power of ten. -/
def powerOfTen (power : Nat) : Option Magnitude := Magnitude.ofNat? (tenTo power)

/-- Divide by the largest power of ten several times, as long as something is left. -/
def divideRepeatedly : Nat → Magnitude → Option Magnitude
  | 0, magnitude => some magnitude
  | steps + 1, magnitude =>
    if magnitude.isZero then some magnitude
    else ((powerOfTen largestPower).bind magnitude.dividedBy).bind (divideRepeatedly steps)

/-- Divide by a power of ten. What exceeds the largest power is divided by beforehand. -/
def divideByTens (magnitude : Magnitude) (power : Nat) : Option Magnitude :=
  let steps := (power - 1) / largestPower
  (divideRepeatedly steps magnitude).bind fun quotient =>
    (powerOfTen (power - steps * largestPower)).bind quotient.dividedBy

/-- A whole number times a power of ten, with a rounding after every step. -/
def scale (value : Nat) (power : Int) : Option Magnitude :=
  match Magnitude.ofNat? value with
  | none => none
  | some magnitude =>
    if power < 0 then divideByTens magnitude (-power).toNat
    else if power.toNat ≤ largestPower then (powerOfTen power.toNat).bind magnitude.times
    else if magnitude.isZero then some magnitude
    else none

/-- The size of a literal as a double, or none if it is out of range. An exponent that is
too long to count makes the literal zero or puts it out of range. -/
def magnitude? (literal : Literal) : Option Magnitude :=
  let (value, power) := literal.significand
  match literal.exponent with
  | none => scale value power
  | some (negative, digits) =>
    match appendDigits exponentBound 0 digits with
    | (exponent, []) => scale value (if negative then power - exponent else power + exponent)
    | (_, _ :: _) => if value = 0 || negative then some .zero else none

/-- The number that a literal denotes, or none if it is out of range. Zero with a minus sign
is no integer. -/
def number? (literal : Literal) : Option Number :=
  let asReal := literal.magnitude?.map fun magnitude => .real ⟨literal.negative, magnitude⟩
  if literal.fraction.isSome || literal.exponent.isSome then asReal
  else
    match appendDigits wordBound 0 literal.whole with
    | (value, []) =>
      if !literal.negative then some (.integer value)
      else if 0 < value && value ≤ wordBound / 2 then some (.integer (-value))
      else asReal
    | (_, _ :: _) => asReal

end Literal

end PlaneFigure
