/-!
# Double-precision numbers

The finite numbers of the binary64 format, with exact arithmetic on their significands. A
number is a sign, a significand below 2 ^ 53 and an exponent of two. Rounding an exact
quotient goes to the nearest number of the format, and from the midpoint to the even
significand; quotients beyond the largest number have no rounding.

Only what reading and writing decimals needs is defined here, and everything is computed on
integers: no machine arithmetic is involved.
-/

namespace PlaneFigure

/-- The size of a finite double, `significand * 2 ^ exponent`. -/
structure Magnitude where
  significand : Nat
  exponent : Int
deriving DecidableEq

/-- A finite double. Zero has two signs. -/
structure Binary64 where
  negative : Bool
  magnitude : Magnitude
deriving DecidableEq

/-- The power of ten with an exponent. -/
def tenTo (exponent : Nat) : Nat := Nat.pow 10 exponent

namespace Magnitude

/-- Significands stay below this bound, `2 ^ 53`. -/
def significandBound : Nat := 1 <<< 53

/-- The least exponent; only here are significands below half of their bound. -/
def leastExponent : Int := -1074

/-- The greatest exponent. -/
def greatestExponent : Int := 971

def zero : Magnitude := ⟨0, leastExponent⟩

def isZero (magnitude : Magnitude) : Bool := magnitude.significand == 0

/-- The numerator of the magnitude as a quotient. -/
def numerator (magnitude : Magnitude) : Nat :=
  magnitude.significand <<< magnitude.exponent.toNat

/-- The denominator of the magnitude as a quotient. -/
def denominator (magnitude : Magnitude) : Nat := 1 <<< (-magnitude.exponent).toNat

/-- The integer nearest to a quotient, the even one of two. -/
def roundQuotient (numerator denominator : Nat) : Nat :=
  let quotient := numerator / denominator
  let twice := 2 * (numerator % denominator)
  if twice < denominator then quotient
  else if denominator < twice then quotient + 1
  else quotient + quotient % 2

/-- The exponent of the greatest power of two that is at most a positive quotient. -/
def binaryOrder (numerator denominator : Nat) : Int :=
  let guess : Int := (numerator.log2 : Int) - (denominator.log2 : Int)
  if denominator <<< guess.toNat ≤ numerator <<< (-guess).toNat then guess else guess - 1

/-- The double nearest to a quotient, or none beyond the largest. -/
def ofQuotient (numerator denominator : Nat) : Option Magnitude :=
  if numerator = 0 then some zero
  else
    let exponent := max leastExponent (binaryOrder numerator denominator - 52)
    let significand := roundQuotient (numerator <<< (-exponent).toNat)
      (denominator <<< exponent.toNat)
    let rounded : Magnitude :=
      if significand = significandBound then ⟨significand / 2, exponent + 1⟩
      else ⟨significand, exponent⟩
    if greatestExponent < rounded.exponent then none else some rounded

/-- The double nearest to a natural number. -/
def ofNat? (value : Nat) : Option Magnitude := ofQuotient value 1

/-- The rounded product. -/
def times (left right : Magnitude) : Option Magnitude :=
  ofQuotient (left.numerator * right.numerator) (left.denominator * right.denominator)

/-- The rounded quotient by a magnitude other than zero. -/
def dividedBy (left right : Magnitude) : Option Magnitude :=
  ofQuotient (left.numerator * right.denominator) (left.denominator * right.numerator)

end Magnitude

end PlaneFigure
