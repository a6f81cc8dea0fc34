/-!
Contract: binary floating-point numbers of 64 bits as exact values.

A finite number is a sign, a mantissa below `2 ^ 53` and a power of two not below `2 ^ (-1074)`;
the mantissa reaches `2 ^ 52` unless the power is the least one. Rounding from a ratio is to the
nearest number, ties to the even mantissa, in exact arithmetic.

Owns: the type, its canonical form and rounding. Does not own: reading and writing decimals.
-/

set_option autoImplicit false

namespace TypedRoutes.Number

/-- A binary floating-point number; a finite one is `± mantissa * 2 ^ exponent`. -/
inductive Binary64 where
  | nan
  | infinity (negative : Bool)
  | finite (negative : Bool) (mantissa : Nat) (exponent : Int)
deriving DecidableEq, Repr

namespace Binary64

def leastExponent : Int := -1074

def greatestExponent : Int := 971

def mantissaBound : Nat := Nat.pow 2 53

/-- The quotient rounded to the nearest integer, a half to the even neighbour. -/
def roundQuotient (numerator denominator : Nat) : Nat :=
  let quotient := numerator / denominator
  let rest := 2 * (numerator % denominator)
  if rest < denominator then quotient
  else if denominator < rest then quotient + 1
  else if quotient % 2 = 0 then quotient else quotient + 1

/-- The power of two by which a number is multiplied when the exponent is not negative. -/
def upscale (exponent : Int) : Nat := Nat.pow 2 exponent.toNat

/-- The power of two by which a number is divided when the exponent is negative. -/
def downscale (exponent : Int) : Nat := Nat.pow 2 (-exponent).toNat

/-- The exponent of the greatest power of two that is not above a positive ratio. -/
def binaryMagnitude (numerator denominator : Nat) : Int :=
  let estimate : Int := (Nat.log2 numerator : Int) - Nat.log2 denominator
  if denominator * upscale estimate ≤ numerator * downscale estimate then estimate
  else estimate - 1

/-- The number nearest to a ratio, with a sign. The denominator is positive. -/
def ofRatio (negative : Bool) (numerator denominator : Nat) : Binary64 :=
  if numerator = 0 then .finite negative 0 leastExponent
  else
    let exponent := max (binaryMagnitude numerator denominator - 52) leastExponent
    let mantissa :=
      roundQuotient (numerator * downscale exponent) (denominator * upscale exponent)
    if mantissa = mantissaBound then
      if exponent = greatestExponent then .infinity negative
      else .finite negative (mantissaBound / 2) (exponent + 1)
    else if greatestExponent < exponent then .infinity negative
    else .finite negative mantissa exponent

end Binary64

end TypedRoutes.Number
