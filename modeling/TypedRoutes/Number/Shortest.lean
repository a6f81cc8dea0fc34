import TypedRoutes.Number.Binary64

/-!
Contract: the shortest decimal that reads back as a given finite binary number.

Every real number between the two halfway points to the neighbours rounds to the number; the
halfway points themselves do exactly when the mantissa is even. For one digit, two digits and so on
the two decimals next to the number are tested against that interval in exact arithmetic: the first
count with a hit wins, of two hits the nearer one, and of two equally near ones the even one.

Owns: the interval and the search. Does not own: the layout of the written number.
-/

set_option autoImplicit false

namespace TypedRoutes.Number

namespace Binary64

/-- The reals that round to a positive finite number, all over one denominator. -/
structure RoundingInterval where
  value : Nat
  below : Nat
  above : Nat
  denominator : Nat
  closed : Bool

/-- The rounding interval of `mantissa * 2 ^ exponent`. The lower neighbour of a power of two is
only half as far away as the upper one. -/
def roundingInterval (mantissa : Nat) (exponent : Int) : RoundingInterval :=
  let unit := upscale exponent
  let lower := if 2 * mantissa = mantissaBound ∧ leastExponent < exponent then 1 else 2
  { value := 4 * mantissa * unit
    below := lower * unit
    above := 2 * unit
    denominator := 4 * downscale exponent
    closed := mantissa % 2 = 0 }

/-- Whether `digits * up / down` lies in the interval. -/
def RoundingInterval.contains (interval : RoundingInterval) (up down digits : Nat) : Bool :=
  let point := digits * up * interval.denominator
  let low := (interval.value - interval.below) * down
  let high := (interval.value + interval.above) * down
  if interval.closed then low ≤ point && point ≤ high else low < point && point < high

/-- How far `digits * up / down` is from the number, over a common denominator. -/
def RoundingInterval.distance (interval : RoundingInterval) (up down digits : Nat) : Nat :=
  let point := digits * up * interval.denominator
  let value := interval.value * down
  (point - value) + (value - point)

end Binary64

/-- A decimal `digits * 10 ^ exponent`. -/
structure Decimal where
  digits : Nat
  exponent : Int
deriving DecidableEq, Repr

/-- How many places after the point a ratio below one has zeros, up to a bound. -/
def leadingZeros (denominator : Nat) : Nat → Nat → Nat
  | 0, _ => 0
  | bound + 1, numerator =>
    if denominator ≤ numerator * 10 then 0
    else leadingZeros denominator bound (numerator * 10) + 1

/-- The count of decimal digits of a natural number; zero has none. -/
def digitCount (n : Nat) : Nat :=
  if n = 0 then 0 else digitCount (n / 10) + 1
termination_by n
decreasing_by omega

/-- Where the decimal point stands relative to the first digit of a positive ratio. No finite
number has more than 323 zeros after the point. -/
def pointPosition (numerator denominator : Nat) : Int :=
  if denominator ≤ numerator then digitCount (numerator / denominator)
  else -(leadingZeros denominator 330 numerator : Int)

namespace Binary64

/-- The better of the two neighbours on the grid of `10 ^ exponent`, if one of them is in the
interval. -/
def RoundingInterval.onGrid? (interval : RoundingInterval) (exponent : Int) : Option Decimal :=
  let up := Nat.pow 10 exponent.toNat
  let down := Nat.pow 10 (-exponent).toNat
  let floor := interval.value * down / (interval.denominator * up)
  let lower := interval.contains up down floor
  let upper := interval.contains up down (floor + 1)
  let toLower := interval.distance up down floor
  let toUpper := interval.distance up down (floor + 1)
  if lower && upper then
    if toLower < toUpper ∨ (toLower = toUpper ∧ floor % 2 = 0) then some ⟨floor, exponent⟩
    else some ⟨floor + 1, exponent⟩
  else if lower then some ⟨floor, exponent⟩
  else if upper then some ⟨floor + 1, exponent⟩
  else none

/-- The shortest decimal of a positive finite number. Seventeen digits always suffice. -/
def shortest (mantissa : Nat) (exponent : Int) : Decimal :=
  let interval := roundingInterval mantissa exponent
  let point := pointPosition interval.value interval.denominator
  ((List.range 17).findSome? fun (count : Nat) =>
      interval.onGrid? (point - (count + 1 : Nat))).getD ⟨0, 0⟩

end Binary64

end TypedRoutes.Number
