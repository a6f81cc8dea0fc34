import TypedRoutes.Text.Lowercase
import TypedRoutes.Value.Basic
import TypedRoutes.Value.FieldType

/-!
Contract: converting captured text to values.

Owns: the converters, which types have one, and the complaints about text that does not convert.
-/

set_option autoImplicit false

namespace TypedRoutes

open TypedRoutes.Number TypedRoutes.Text

inductive Converter where
  | text
  | integer
  | float
  | boolean
  | uuid
  | member (enumeration : Enumeration)
deriving DecidableEq, Repr

inductive ConversionError where
  | noBoolean (text : Text)
  | noMember (text : Text) (enumeration : Text)
  | noInteger (error : IntegerError)
  | noFloat (text : Text)
  | noUuid (error : UuidError)
  /-- The value of a member that the text could be cannot be written. -/
  | obstacle (error : Obstacle)
deriving DecidableEq, Repr

def ConversionError.message : ConversionError → String
  | .noBoolean text => "Not a boolean: " ++ quote text
  | .noMember text enumeration => quote text ++ " is not a value of " ++ String.ofList enumeration
  | .noInteger error => error.message
  | .noFloat text => "could not convert string to float: " ++ quote text
  | .noUuid error => error.message
  | .obstacle error => error.message

def ConversionError.blame : ConversionError → Blame
  | .obstacle error => error.blame
  | _ => .content

/-- Whether a complaint says no more than that the text does not convert. -/
def ConversionError.isPlain (error : ConversionError) : Bool :=
  error.blame = .content || error.blame = .kind

def truthWords : List Text := ["true", "1", "yes", "on"].map String.toList

def falsehoodWords : List Text := ["false", "0", "no", "off"].map String.toList

/-- Reads a truth value from one of its words, in any case. -/
def readBoolean? (text : Text) : Option Bool :=
  let lowered := lowercase text
  if truthWords.contains lowered then some true
  else if falsehoodWords.contains lowered then some false
  else none

/-- The result of a partial reader, or the complaint when there is none. -/
private def orComplain {α : Type} (complaint : ConversionError) :
    Option α → Except ConversionError α
  | none => .error complaint
  | some a => .ok a

def Converter.read (text : Text) : Converter → Except ConversionError Value
  | .text => .ok (.scalar (.text text))
  | .integer => ((readInteger 10 text).mapError .noInteger).map (.scalar ∘ .integer)
  | .float => (orComplain (.noFloat text) (readFloat? text)).map (.scalar ∘ .float)
  | .boolean => (orComplain (.noBoolean text) (readBoolean? text)).map (.scalar ∘ .boolean)
  | .uuid => ((Uuid.read text).mapError .noUuid).map (.scalar ∘ .uuid)
  | .member enumeration =>
    match enumeration.withText text with
    | .error error => .error (.obstacle error)
    | .ok found => (orComplain (.noMember text enumeration.cls.name) found).map Member.value

/-- The converter of a type, if it has one. Unions have none. -/
def FieldType.converter? : FieldType → Option Converter
  | .text => some .text
  | .any => some .text
  | .integer => some .integer
  | .float => some .float
  | .boolean => some .boolean
  | .uuid => some .uuid
  | .enumeration choices => some (.member choices)
  | _ => Option.none

end TypedRoutes
