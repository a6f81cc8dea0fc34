import TypedRoutes.Table.Instance

/-!
Contract: why the declarations of fields make no fields of a class.

Owns: the complaints and their wording.
-/

set_option autoImplicit false

namespace TypedRoutes.Declaration

open TypedRoutes.Table TypedRoutes.Text

inductive NameClash where
  | repeated (name : Text)
  /-- The name is that of a constant. -/
  | constant (name : Text)
deriving DecidableEq, Repr

/-- The wording of the complaint, with the line of what the arguments belong to. -/
def NameClash.message (line : Nat) : NameClash → String
  | .repeated name =>
    s!"duplicate argument '{String.ofList name}' in function definition (<string>, line {line})"
  | .constant name => s!"cannot assign to {String.ofList name} (<string>, line {line})"

inductive FieldError where
  /-- A default or a type stands for nothing. -/
  | expression (error : ExpressionError)
  /-- A default is given to a field that has one anyway. -/
  | repeatedDefault
  | twoDefaults
  | noIdentifier (shape : Shape) (name : Text)
  | reserved (shape : Shape) (name : Text)
  | repeated (name : Text)
  | hidden (name : Text)
  /-- There is a zero character in the name of the class. -/
  | zeroCharacter
  /-- A field stands in the place of the slots of its class. -/
  | slots
  /-- A field stands in the place of the name of its class. -/
  | className
  /-- A field stands in the place of its class. -/
  | cell
  /-- A default of the shown kind cannot be a key. -/
  | keyless (shown field : Text)
  | undeletable (cls field : Text)
  | recordOrder (field : Text)
  | tupleOrder (field : Text) (defaulted : List Text)
  | clash (error : NameClash) (line : Nat)
  /-- The name of a field of a record is not in its normal form. -/
  | variant (field : Text)
  | overwritten (cls field : Text)
  /-- A value stands in the place of the signature of the class. -/
  | noSignature (shown : Text)
  /-- A value stands in the place of what makes instances. -/
  | noMaker (shown : Text)
  /-- The absent value stands in the place of what makes instances. -/
  | absentMaker (cls : Text)
  /-- A value stands in the place of what the class is wrapped around. -/
  | noCore (shown : Text)
  /-- A default cannot be shown. -/
  | obstacle (error : Obstacle)
deriving DecidableEq, Repr

namespace FieldError

def message : FieldError → String
  | .expression error => error.message
  | .repeatedDefault =>
    "dataclasses.field() got multiple values for keyword argument 'default'"
  | .twoDefaults => "cannot specify both default and default_factory"
  | .noIdentifier .tuple name =>
    "Type names and field names must be valid identifiers: " ++ quote name
  | .noIdentifier _ name => "Field names must be valid identifiers: " ++ quote name
  | .reserved .tuple name => "Type names and field names cannot be a keyword: " ++ quote name
  | .reserved _ name => "Field names must not be keywords: " ++ quote name
  | .repeated name => "Field name duplicated: " ++ quote name
  | .hidden name => "Field names cannot start with an underscore: " ++ quote name
  | .zeroCharacter => "type name must not contain null characters"
  | .slots => (Obstacle.undivided "Field".toList).message
  | .className => "type __qualname__ must be a str, not Field"
  | .cell => "__classcell__ must be a nonlocal cell, not <class 'dataclasses.Field'>"
  | .keyless shown field =>
    s!"mutable default {String.ofList shown} for field {String.ofList field} is not allowed: " ++
      "use default_factory"
  | .undeletable cls field =>
    s!"cannot delete {quote field} attribute of immutable type {quote cls}"
  | .recordOrder field => "non-default argument " ++ quote field ++ " follows default argument"
  | .tupleOrder field defaulted =>
    let plural := if defaulted.length = 1 then "" else "s"
    s!"Non-default namedtuple field {String.ofList field} cannot follow default field{plural} " ++
      String.ofList (join [',', ' '] defaulted)
  | .clash error line => error.message line
  | .variant field =>
    "__create_fn__() got an unexpected keyword argument '_type_" ++ String.ofList field ++ "'"
  | .overwritten cls field =>
    s!"Cannot overwrite attribute {String.ofList field} in class {String.ofList cls}"
  | .noSignature shown => s!"unexpected object {String.ofList shown} in __signature__ attribute"
  | .noMaker shown => String.ofList shown ++ " is not a callable object"
  | .absentMaker cls =>
    "no signature found for builtin type <class " ++ quote ("types.".toList ++ cls) ++ ">"
  | .noCore shown => s!"callable {String.ofList shown} is not supported by signature"
  | .obstacle error => error.message

def blame : FieldError → Blame
  | .expression error => error.blame
  | .obstacle error => error.blame
  | .clash _ _ => .names
  | .noIdentifier .tuple _ | .reserved .tuple _ => .content
  | .twoDefaults | .hidden _ | .zeroCharacter | .keyless _ _ | .absentMaker _ | .noCore _ =>
    .content
  | .repeatedDefault | .noIdentifier _ _ | .reserved _ _ | .repeated _ | .slots | .className
  | .cell | .undeletable _ _ | .recordOrder _ | .tupleOrder _ _ | .variant _ | .overwritten _ _
  | .noSignature _ | .noMaker _ => .kind

end FieldError

end TypedRoutes.Declaration
