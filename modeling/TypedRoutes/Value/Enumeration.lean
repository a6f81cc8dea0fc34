import TypedRoutes.Blame
import TypedRoutes.Value.Equality

/-!
Contract: enumerations, closed lists of named values.

Two names with values that agree name one member; the first of them is its canonical name, the
others are aliases.

Owns: enumerations, members, look-up by name, by value and by text, and what enumerations make of
values when they insist on a kind.
Does not own: what flags come to when they are combined, and the flag of nothing. Such a value is no
member of the list, and going through the class passes it by.
-/

set_option autoImplicit false

namespace TypedRoutes

open TypedRoutes.Number TypedRoutes.Text

structure Member where
  enumeration : ClassRef
  kind : ValueKind
  name : Text
  content : Value
deriving DecidableEq, Repr

def Member.value (member : Member) : Value :=
  .member member.enumeration member.kind member.name member.content

/-- An enumeration with its names in the order of declaration, aliases included. -/
structure Enumeration where
  cls : ClassRef
  kind : ValueKind
  entries : List (Text × Value)
deriving DecidableEq, Repr

namespace Enumeration

def agreeing? (members : List Member) (value : Value) : Option Member :=
  members.find? fun member => member.content.agrees value

/-- The entries that name a member for the first time. `earlier` are the members found so far. -/
def canonicalFrom (cls : ClassRef) (kind : ValueKind) (earlier : List Member) :
    List (Text × Value) → List Member
  | [] => []
  | (name, value) :: rest =>
    match agreeing? earlier value with
    | some _ => canonicalFrom cls kind earlier rest
    | none =>
      let member : Member := ⟨cls, kind, name, value⟩
      member :: canonicalFrom cls kind (earlier ++ [member]) rest

def members (enumeration : Enumeration) : List Member :=
  canonicalFrom enumeration.cls enumeration.kind [] enumeration.entries

/-- The member that a name stands for; an alias stands for the first member of agreeing value. -/
def member? (enumeration : Enumeration) (name : Text) : Option Member :=
  match enumeration.entries.find? (fun entry => entry.1 = name) with
  | none => none
  | some (_, value) =>
    (enumeration.members.find? fun member => member.name = name).orElse fun _ =>
      agreeing? enumeration.members value

def withValue? (enumeration : Enumeration) (value : Value) : Option Member :=
  agreeing? enumeration.members value

/-- The first of some members whose value is written as the text. The values are written one after
the other until then, and one that cannot be written is in the way of those behind it. -/
def firstWritten (text : Text) : List Member → Except Obstacle (Option Member)
  | [] => .ok none
  | member :: rest =>
    match member.content.text with
    | .error error => .error error
    | .ok written => if written = text then .ok (some member) else firstWritten text rest

/-- The first member whose value is written as the text, if no value before it is in the way. -/
def withText (enumeration : Enumeration) (text : Text) : Except Obstacle (Option Member) :=
  firstWritten text enumeration.members

end Enumeration

inductive CoercionError where
  /-- A text that reads as no number, with the value it belongs to as listings show it. -/
  | unreadable (shown : Text) (error : IntegerError)
  | noNumber (kind : Text)
  | notANumber
  | infinite
  | obstacle (error : Obstacle)
  /-- More values than it takes to make one of the kind. -/
  | tooMany (kind : ValueKind) (given : Nat)
  /-- A base of this kind is no integer. -/
  | noBase (kind : Text)
  | outOfBases
  /-- A base is given for something that is no text. -/
  | baseOfNumber
  /-- A parameter of decoding is of this kind, and so is no text. -/
  | noParameter (parameter : String) (kind : Text)
  | zeroCharacter
  | decodedText
  /-- A value of this kind holds nothing to decode. -/
  | undecodable (kind : Text)
deriving DecidableEq, Repr

namespace CoercionError

def message : CoercionError → String
  | .unreadable shown (.malformed base _) => malformedMessage base shown
  | .unreadable _ (.tooManyDigits count) => (IntegerError.tooManyDigits count).message
  | .noNumber kind =>
    "int() argument must be a string, a bytes-like object or a real number, not " ++ quote kind
  | .notANumber => "cannot convert float NaN to integer"
  | .infinite => "cannot convert float infinity to integer"
  | .obstacle error => error.message
  | .tooMany .integer given => s!"int() takes at most 2 arguments ({given} given)"
  | .tooMany _ given => s!"str() takes at most 3 arguments ({given} given)"
  | .noBase kind => quote kind ++ " object cannot be interpreted as an integer"
  | .outOfBases => "int() base must be >= 2 and <= 36, or 0"
  | .baseOfNumber => "int() can't convert non-string with explicit base"
  | .noParameter parameter kind =>
    let given := if kind = Scalar.kindName .none then (Scalar.shown .none) else kind
    s!"str() argument '{parameter}' must be str, not {String.ofList given}"
  | .zeroCharacter => "embedded null character"
  | .decodedText => "decoding str is not supported"
  | .undecodable kind =>
    "decoding to str: need a bytes-like object, " ++ String.ofList kind ++ " found"

def blame : CoercionError → Blame
  | .unreadable _ _ | .notANumber | .outOfBases | .zeroCharacter => .content
  | .infinite => .size
  | .obstacle error => error.blame
  | .noNumber _ | .tooMany _ _ | .noBase _ | .baseOfNumber | .noParameter _ _ | .decodedText
  | .undecodable _ => .kind

end CoercionError

/-- A plain value as an integer; what stands behind the point of a fraction is dropped. A complaint
about a text shows the value it belongs to as `shown`. -/
def Scalar.toInteger (shown : Text) : Scalar → Except CoercionError Int
  | .none => .error (.noNumber (Scalar.kindName .none))
  | .text content => (readInteger 10 content).mapError (.unreadable shown)
  | .integer number => .ok number
  | .boolean truth => .ok (if truth then 1 else 0)
  | .uuid identifier => .ok identifier.number
  | .float .nan => .error .notANumber
  | .float (.infinity _) => .error .infinite
  | .float (.finite negative mantissa exponent) =>
    let size : Int :=
      (mantissa * Binary64.upscale exponent / Binary64.downscale exponent : Nat)
    .ok (if negative then -size else size)

namespace Value

/-- The text that a value is, by itself or as a member of an enumeration of texts. -/
def asText? (value : Value) : Option Text :=
  match value.counterpart with
  | .scalar (.text content) => some content
  | _ => none

def asInteger? (value : Value) : Option Int :=
  match value.counterpart with
  | .scalar (.integer number) => some number
  | .scalar (.boolean truth) => some (if truth then 1 else 0)
  | _ => none

/-- A value as an integer. Members of enumerations without a kind and records are no numbers. -/
def toInteger (value : Value) : Except CoercionError Int :=
  match value.counterpart with
  | .scalar plain =>
    match value.shown with
    | .ok shown => plain.toInteger shown
    | .error error =>
      match plain.toInteger [] with
      | .error (.unreadable _ (.malformed _ _)) => .error (.obstacle error)
      | result => result
  | other => .error (.noNumber other.bareKind)

def toIntegerIn (value base : Value) : Except CoercionError Int :=
  match base.asInteger? with
  | none => .error (.noBase base.bareKind)
  | some number =>
    if number ≠ 0 ∧ (number < 2 ∨ 36 < number) then .error .outOfBases
    else
      match value.asText? with
      | none => .error .baseOfNumber
      | some content =>
        (readInteger number.toNat content).mapError
          (.unreadable ((value.shown).toOption.getD (quoted content)))

def parameterError? (parameter : String) (value : Value) : Option CoercionError :=
  match value.asText? with
  | none => some (.noParameter parameter value.bareKind)
  | some content => if content.contains '\x00' then some .zeroCharacter else none

/-- The complaint about decoding a value: there are no values that can be decoded. -/
def decodingError (value : Value) : CoercionError :=
  if value.asText?.isSome then .decodedText else .undecodable value.bareKind

/-- The values that one of a kind is made from: a tuple stands for its fields. -/
def components (value : Value) : List Value :=
  match value.items with
  | .ok parts => parts
  | .error _ => [value]

end Value

def textOfComponents : List Value → Except CoercionError Text
  | [] => .ok []
  | [value] => value.text.mapError .obstacle
  | [value, encoding] =>
    .error ((encoding.parameterError? "encoding").getD value.decodingError)
  | [value, encoding, errors] =>
    .error
      (((encoding.parameterError? "encoding").orElse fun _ =>
        errors.parameterError? "errors").getD value.decodingError)
  | values => .error (.tooMany .text values.length)

def integerOfComponents : List Value → Except CoercionError Int
  | [] => .ok 0
  | [value] => value.toInteger
  | [value, base] => value.toIntegerIn base
  | values => .error (.tooMany .integer values.length)

/-- A value as an enumeration of the given kind keeps it. -/
def ValueKind.coerce : ValueKind → Value → Except CoercionError Value
  | .any, value => .ok value
  | .text, value => (textOfComponents value.components).map (.scalar ∘ .text)
  | .integer, value => (integerOfComponents value.components).map (.scalar ∘ .integer)

end TypedRoutes
