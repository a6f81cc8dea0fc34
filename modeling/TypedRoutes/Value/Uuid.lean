import TypedRoutes.Number.Integer

/-!
Contract: universally unique identifiers, numbers of 128 bits.

Owns: the type, its text of 32 hexadecimal digits in five runs, and the reader. The reader takes
the words `urn:` and `uuid:` anywhere, braces at the ends and hyphens anywhere; what remains has to
be 32 characters that read as a number in base sixteen.
-/

set_option autoImplicit false

namespace TypedRoutes

open TypedRoutes.Number TypedRoutes.Text

def uuidBound : Nat := Nat.pow 2 128

structure Uuid where
  number : Nat
  number_lt : number < uuidBound
deriving DecidableEq, Repr

inductive UuidError where
  | malformed
  /-- The length is right, but the digits do not read as a number. -/
  | digits (error : IntegerError)
deriving DecidableEq, Repr

def UuidError.message : UuidError → String
  | .malformed => "badly formed hexadecimal UUID string"
  | .digits error => error.message

namespace Uuid

def text (uuid : Uuid) : Text :=
  let digits := hexDigits 32 uuid.number
  join ['-']
    [digits.take 8, (digits.drop 8).take 4, (digits.drop 12).take 4, (digits.drop 16).take 4,
      digits.drop 20]

/-- The characters of an identifier that count, of a text in any of the accepted forms. -/
def bareDigits (text : Text) : Text :=
  let unprefixed := removeAll "uuid:".toList (removeAll "urn:".toList text)
  (strip (fun c => c = '{' || c = '}') unprefixed).filter (· ≠ '-')

def read (text : Text) : Except UuidError Uuid :=
  let digits := bareDigits text
  if digits.length = 32 then
    match readInteger 16 digits with
    | .ok (.ofNat number) =>
      if bound : number < uuidBound then .ok ⟨number, bound⟩ else .error .malformed
    | .ok (.negSucc _) => .error .malformed
    | .error error => .error (.digits error)
  else .error .malformed

end Uuid

end TypedRoutes
