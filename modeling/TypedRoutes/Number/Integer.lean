import TypedRoutes.Text.Basic
import TypedRoutes.Text.Blank
import TypedRoutes.Text.Digit
import TypedRoutes.Text.Quoted

/-!
Contract: integers and their text.

Owns: decimal writing, and reading in a base of at most thirty-six. The reader takes blanks around
the number, one sign, decimal digits of any script, letters as digits above nine and single
underscores between digits; in base two, eight and sixteen also a leading mark of the base. In place
of a base, zero stands for the base that the number's mark tells. A number of more than 4300 digits
is refused, unless its base is a power of two. Does not own: fractions and exponents.
-/

set_option autoImplicit false

namespace TypedRoutes.Number

open TypedRoutes.Text

def digitChar (value : Nat) : Char :=
  Char.ofNat (0x30 + value)

def naturalText (n : Nat) : Text :=
  if n < 10 then [digitChar n] else naturalText (n / 10) ++ [digitChar (n % 10)]
termination_by n
decreasing_by omega

def integerText : Int → Text
  | .ofNat n => naturalText n
  | .negSucc n => '-' :: naturalText (n + 1)

/-- A number may stand between blanks; the four information separators do not count as blank. -/
def isNumberBlank (c : Char) : Bool :=
  isBlank c && !(0x1c ≤ c.toNat && c.toNat ≤ 0x1f)

def letterValue? (c : Char) : Option Nat :=
  if 'a'.toNat ≤ c.toNat ∧ c.toNat ≤ 'z'.toNat then some (c.toNat - 'a'.toNat + 10)
  else if 'A'.toNat ≤ c.toNat ∧ c.toNat ≤ 'Z'.toNat then some (c.toNat - 'A'.toNat + 10)
  else none

def digitValue? (base : Nat) (c : Char) : Option Nat :=
  ((decimalValue? c).orElse fun _ => letterValue? c).filter (· < base)

/-- The digits up to the first character that is neither a digit nor an underscore, with what
follows. An underscore that no digit follows at once makes the run invalid. -/
def moreDigits (base : Nat) : Text → Option (List Nat × Text)
  | [] => some ([], [])
  | ['_'] => none
  | '_' :: c :: rest =>
    match digitValue? base c with
    | none => none
    | some digit => (moreDigits base rest).map fun (digits, after) => (digit :: digits, after)
  | c :: rest =>
    match digitValue? base c with
    | none => some ([], c :: rest)
    | some digit => (moreDigits base rest).map fun (digits, after) => (digit :: digits, after)

/-- A nonempty run of digits with single underscores between them, and what follows. -/
def digitRun (base : Nat) : Text → Option (List Nat × Text)
  | [] => none
  | c :: rest =>
    match digitValue? base c with
    | none => none
    | some digit => (moreDigits base rest).map fun (digits, after) => (digit :: digits, after)

/-- The number that digits stand for, the highest first. -/
def ofDigits (base : Nat) (digits : List Nat) : Nat :=
  digits.foldl (fun value digit => value * base + digit) 0

inductive IntegerError where
  | malformed (base : Nat) (text : Text)
  | tooManyDigits (count : Nat)
deriving DecidableEq, Repr

/-- A decimal number may have this many digits. -/
def digitLimit : Nat := 4300

/-- The complaint about a text that is no number, as listings show it; it is cut after two hundred
characters. -/
def malformedMessage (base : Nat) (shown : Text) : String :=
  let cut := String.ofList (shown.take 200)
  s!"invalid literal for int() with base {base}: {cut}"

def IntegerError.message : IntegerError → String
  | .malformed base text => malformedMessage base (quoted text)
  | .tooManyDigits count =>
    s!"Exceeds the limit ({digitLimit} digits) for integer string conversion: value has {count} " ++
      "digits; use sys.set_int_max_str_digits() to increase the limit"

def splitSign : Text → Bool × Text
  | '+' :: rest => (false, rest)
  | '-' :: rest => (true, rest)
  | text => (false, text)

/-- The base that a number is marked with, by a letter behind a zero, and what follows the mark. -/
def splitMark : Text → Option (Nat × Text)
  | c :: mark :: rest =>
    if decimalValue? c = some 0 then
      match mark with
      | 'x' | 'X' => some (16, rest)
      | 'o' | 'O' => some (8, rest)
      | 'b' | 'B' => some (2, rest)
      | _ => none
    else none
  | _ => none

/-- What follows the mark of a number in a base, with the underscore that may follow the mark. -/
def dropMark (base : Nat) (text : Text) : Text :=
  match splitMark text with
  | none => text
  | some (marked, rest) =>
    if marked ≠ base then text
    else
      match rest with
      | '_' :: more => more
      | _ => rest

/-- Whether numbers in a base may have any number of digits. -/
def isPowerOfTwo (base : Nat) : Bool :=
  [2, 4, 8, 16, 32].contains base

/-- Reads an integer from the whole of a text. Without a mark, base zero stands for ten, and only
zero itself may begin with a zero then. -/
def readInteger (base : Nat) (text : Text) : Except IntegerError Int :=
  let (negative, unsigned) := splitSign (text.dropWhile isNumberBlank)
  let marked := splitMark unsigned
  let actual := if base = 0 then (marked.map (·.1)).getD 10 else base
  match digitRun actual (dropMark actual unsigned) with
  | none => .error (.malformed base text)
  | some (digits, after) =>
    let number := ofDigits actual digits
    if !isPowerOfTwo actual && digits.length > digitLimit then
      .error (.tooManyDigits digits.length)
    else if !after.all isNumberBlank then .error (.malformed base text)
    else if base = 0 && marked.isNone && digits.head? = some 0 && number ≠ 0 then
      .error (.malformed base text)
    else .ok (if negative then -(number : Int) else number)

end TypedRoutes.Number
