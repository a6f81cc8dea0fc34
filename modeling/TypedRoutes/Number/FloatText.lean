import TypedRoutes.Number.Integer
import TypedRoutes.Number.Shortest

/-!
Contract: reading and writing floating-point numbers.

Owns: the layout of written numbers, given by a style, and the reader. The reader takes blanks
around the number, one sign, decimal digits of any script with single underscores between digits,
a point, an exponent, and the words for infinity and for no number in any case.
-/

set_option autoImplicit false

namespace TypedRoutes.Number

open TypedRoutes.Text

/-- How a number is laid out: where the point may stand relative to the first digit in positional
writing, and the least count of digits of an exponent. -/
structure FloatStyle where
  leastPoint : Int
  greatestPoint : Int
  exponentDigits : Nat

/-- Positional writing reaches from `0.0001` to sixteen digits before the point; exponents have
two digits at least. -/
def FloatStyle.standard : FloatStyle where
  leastPoint := -3
  greatestPoint := 16
  exponentDigits := 2

def padZeros (width : Nat) (text : Text) : Text :=
  List.replicate (width - text.length) '0' ++ text

def dropFinalZeros (digits : Text) : Text :=
  (digits.reverse.dropWhile (· = '0')).reverse

/-- Lays out digits with the point at a position relative to the first digit. -/
def FloatStyle.layout (style : FloatStyle) (digits : Text) (point : Int) : Text :=
  if style.leastPoint ≤ point ∧ point ≤ style.greatestPoint then
    if point ≤ 0 then '0' :: '.' :: List.replicate (-point).toNat '0' ++ digits
    else
      let before := point.toNat
      if digits.length ≤ before then
        digits ++ List.replicate (before - digits.length) '0' ++ ['.', '0']
      else digits.take before ++ '.' :: digits.drop before
  else
    let fraction :=
      match digits with
      | first :: second :: more => first :: '.' :: second :: more
      | _ => digits
    let exponent := point - 1
    let sign := if exponent < 0 then '-' else '+'
    fraction ++ 'e' :: sign :: padZeros style.exponentDigits (naturalText exponent.natAbs)

/-- The text of a number with the fewest digits that read back as the same number. -/
def FloatStyle.text (style : FloatStyle) : Binary64 → Text
  | .nan => ['n', 'a', 'n']
  | .infinity false => ['i', 'n', 'f']
  | .infinity true => ['-', 'i', 'n', 'f']
  | .finite negative mantissa exponent =>
    let unsigned :=
      if mantissa = 0 then ['0', '.', '0']
      else
        let decimal := Binary64.shortest mantissa exponent
        let digits := naturalText decimal.digits
        style.layout (dropFinalZeros digits) (digits.length + decimal.exponent)
    if negative then '-' :: unsigned else unsigned

/-- The value of an ASCII or other decimal digit, as the reader of numbers sees it. -/
def floatDigit? (c : Char) : Option Nat :=
  decimalValue? c

/-- The text without its underscores, if each of them stands between two digits. -/
def dropUnderscores (previousIsDigit : Bool) : Text → Option Text
  | [] => some []
  | '_' :: rest =>
    match rest with
    | next :: _ =>
      if previousIsDigit && (floatDigit? next).isSome then dropUnderscores false rest else none
    | [] => none
  | c :: rest => (dropUnderscores (floatDigit? c).isSome rest).map (c :: ·)

def leadingDigits : Text → List Nat × Text
  | [] => ([], [])
  | c :: rest =>
    match floatDigit? c with
    | none => ([], c :: rest)
    | some digit =>
      let (digits, after) := leadingDigits rest
      (digit :: digits, after)

def fractionDigits : Text → List Nat × Text
  | '.' :: rest => leadingDigits rest
  | text => ([], text)

/-- The exponent at the end of a number; absent, it is zero. -/
def exponentPart? : Text → Option Int
  | [] => some 0
  | mark :: rest =>
    if mark = 'e' ∨ mark = 'E' then
      let (negative, unsigned) := splitSign rest
      match leadingDigits unsigned with
      | ([], _) => none
      | (digits, []) =>
        let size : Int := ofDigits 10 digits
        some (if negative then -size else size)
      | (_, _ :: _) => none
    else none

/-- The number nearest to `digits * 10 ^ exponent`. Far outside the range of finite numbers the
result is known from the magnitude alone. -/
def ofDecimal (negative : Bool) (digits : Nat) (exponent : Int) : Binary64 :=
  let magnitude := digitCount digits + exponent
  if digits = 0 ∨ magnitude < -400 then .finite negative 0 Binary64.leastExponent
  else if 400 < magnitude then .infinity negative
  else Binary64.ofRatio negative (digits * Nat.pow 10 exponent.toNat)
    (Nat.pow 10 (-exponent).toNat)

def asciiLower (text : Text) : Text :=
  text.map fun c =>
    if 'A'.toNat ≤ c.toNat ∧ c.toNat ≤ 'Z'.toNat then Char.ofNat (c.toNat + 32) else c

def readFloat? (text : Text) : Option Binary64 := do
  let written ← dropUnderscores false (strip isNumberBlank text)
  let (negative, unsigned) := splitSign written
  let word := String.ofList (asciiLower unsigned)
  if word = "nan" then return .nan
  if word = "inf" ∨ word = "infinity" then return .infinity negative
  let (whole, afterWhole) := leadingDigits unsigned
  let (fraction, afterFraction) := fractionDigits afterWhole
  if whole.isEmpty && fraction.isEmpty then none
  let exponent ← exponentPart? afterFraction
  return ofDecimal negative (ofDigits 10 (whole ++ fraction)) (exponent - fraction.length)

end TypedRoutes.Number
