import TypedRoutes.Blame
import TypedRoutes.Value.ClassRef
import TypedRoutes.Value.Scalar

/-!
Contract: the values that fields of routes hold.

A value is plain, a member of an enumeration, or a record: an instance of a declared class with the
values of its fields in the order of declaration. A value carries all that its own text depends on,
so it can be written and shown without the declarations it came from. A record can have fields
without a value; it cannot be shown then. Some values are neither of these and are known only by how
they are shown.

Owns: values, their texts in a route and in listings, the names of their kinds, and what stands in
the way of these. Does not own: routes written from records, which depend on patterns, and
comparison.
-/

set_option autoImplicit false

namespace TypedRoutes

open TypedRoutes.Number TypedRoutes.Text

inductive Shape where
  /-- Fields are known by name. -/
  | record
  /-- Fields are known by position. -/
  | tuple
  /-- There are no fields. -/
  | bare
deriving DecidableEq, Repr

/-- The kind of value that an enumeration turns all its values into. -/
inductive ValueKind where
  | any
  | text
  | integer
deriving DecidableEq, Repr

inductive Value where
  | scalar (plain : Scalar)
  /-- A member of an enumeration under its canonical name, with the value it was declared with. -/
  | member (enumeration : ClassRef) (kind : ValueKind) (name : Text) (content : Value)
  /-- An instance of a class: the fields that have values, and the names of those that have
  none. -/
  | record (cls : ClassRef) (shape : Shape) (fields : List (Text × Value)) (unset : List Text)
  /-- Something else, by its kind and by how it is shown. -/
  | foreign (kind shown : Text)
deriving Repr, Inhabited

inductive Obstacle where
  /-- A value of the kind has no such part. -/
  | missing (kind part : Text)
  /-- In the place of the operation stands a value of the kind, which cannot be called. -/
  | uncallable (kind : Text)
  /-- A value of the kind does not consist of others. -/
  | undivided (kind : Text)
  /-- An integer has more digits than its text may have. -/
  | tooManyDigits
deriving DecidableEq, Repr

namespace Obstacle

def message : Obstacle → String
  | .missing kind part => quote kind ++ " object has no attribute " ++ quote part
  | .uncallable kind => quote kind ++ " object is not callable"
  | .undivided kind => quote kind ++ " object is not iterable"
  | .tooManyDigits =>
    s!"Exceeds the limit ({digitLimit} digits) for integer string conversion; use " ++
      "sys.set_int_max_str_digits() to increase the limit"

def blame : Obstacle → Blame
  | .missing _ _ => .part
  | .uncallable _ | .undivided _ => .kind
  | .tooManyDigits => .content

end Obstacle

/-- A text of a plain value. An integer of too many digits has none. -/
def Scalar.written (plain : Scalar) (text : Text) : Except Obstacle Text :=
  match plain with
  | .integer number =>
    if number.natAbs < Nat.pow 10 digitLimit then .ok text else .error .tooManyDigits
  | _ => .ok text

/-- The operations of a class that take part in an operation on an instance have to be its own. -/
def ClassRef.need (cls : ClassRef) (operations : List String) : Except Obstacle Unit :=
  match operations.findSome? cls.replacement? with
  | some kind => .error (.uncallable kind)
  | none => .ok ()

/-- What stands in the way of asking an instance of a class for a part that it does not have. -/
def ClassRef.lack (cls : ClassRef) (part : Text) : Obstacle :=
  match cls.replacement? "__getattr__" with
  | some kind => .uncallable kind
  | none => .missing cls.bareName part

namespace Value

def absent : Value := .scalar .none

def isAbsent : Value → Bool
  | .scalar .none => true
  | _ => false

def kindName : Value → Text
  | .scalar plain => plain.kindName
  | .member enumeration _ _ _ => enumeration.name
  | .record cls _ _ _ => cls.name
  | .foreign kind _ => kind

/-- The name of a value's kind without the table it was declared in. -/
def bareKind (value : Value) : Text :=
  lastPart value.kindName

def shownKind : Value → Text
  | .scalar (.uuid _) => "<class 'uuid.UUID'>".toList
  | .scalar plain => "<class ".toList ++ quoted plain.kindName ++ ['>']
  | .member enumeration _ _ _ => "<enum ".toList ++ quoted enumeration.bareName ++ ['>']
  | .record cls _ _ _ => "<class ".toList ++ quoted ("app.".toList ++ cls.name) ++ ['>']
  | .foreign kind _ => "<class ".toList ++ quoted kind ++ ['>']

/-- The values that a value consists of: a tuple consists of the values of its fields. -/
def items (value : Value) : Except Obstacle (List Value) :=
  match value with
  | .record _ .tuple fields _ => .ok (fields.map (·.2))
  | _ => .error (.undivided value.bareKind)

/-- The class that a record says it is of: a field can stand in the place of the class. -/
def classOf (cls : ClassRef) (fields : List (Text × Value)) : Except Obstacle Text :=
  match fields.find? fun entry => entry.1 = "__class__".toList with
  | none => .ok cls.name
  | some (_, .foreign kind _) => .ok kind
  | some (_, other) => .error (.missing other.bareKind "__qualname__".toList)

def shownRecord (cls : ClassRef) (shape : Shape) (fields : List Text) : Text :=
  let listed := '(' :: join [',', ' '] fields ++ [')']
  match shape with
  | .record => cls.name ++ listed
  | .tuple => cls.bareName ++ listed
  | .bare => "<app.".toList ++ cls.name ++ " object at 0x0>".toList

mutual

def shown : Value → Except Obstacle Text
  | .scalar plain => plain.written plain.shown
  | .foreign _ shown => .ok shown
  | .member enumeration _ name content =>
    match enumeration.need ["__repr__"], enumeration.replacement? "__class__" with
    | .error error, _ => .error error
    | .ok _, some kind => .error (.missing kind "_value_repr_".toList)
    | .ok _, none =>
      content.shown.map fun inner =>
        '<' :: enumeration.bareName ++ '.' :: name ++ [':', ' '] ++ inner ++ ['>']
  | .record cls shape fields unset =>
    match cls.need ["__repr__", "__getattribute__"], classOf cls fields, shownFields fields,
      unset with
    | .error error, _, _, _ => .error error
    | _, .error error, _, _ => .error error
    | _, _, .error error, _ => .error error
    | _, _, .ok _, field :: _ => .error (cls.lack field)
    | _, .ok name, .ok texts, [] => .ok (shownRecord { cls with name } shape texts)

def shownFields : List (Text × Value) → Except Obstacle (List Text)
  | [] => .ok []
  | (name, value) :: rest =>
    match value.shown with
    | .error error => .error error
    | .ok text => (shownFields rest).map ((name ++ '=' :: text) :: ·)

end

/-- The text of a value on its own. A record is written as it is shown. -/
def text : Value → Except Obstacle Text
  | .scalar plain => plain.written plain.plain
  | .foreign _ shown => .ok shown
  | .member enumeration _ name _ =>
    match enumeration.need ["__str__"], enumeration.replacement? "__class__" with
    | .error error, _ => .error error
    | .ok _, some kind => .error (.missing kind "__name__".toList)
    | .ok _, none => .ok (enumeration.bareName ++ '.' :: name)
  | .record cls shape fields unset =>
    match cls.need ["__str__"] with
    | .error error => .error error
    | .ok _ => (Value.record cls shape fields unset).shown

/-- The text of a value in a route. A member is written as the value it was declared with. -/
def routeText : Value → Except Obstacle Text
  | .scalar plain => plain.written plain.routeText
  | .foreign _ shown => .ok shown
  | .member _ _ _ content => content.text
  | .record cls shape fields unset =>
    match cls.need ["__getattribute__"] with
    | .error error => .error error
    | .ok _ => (Value.record cls shape fields unset).text

end Value

end TypedRoutes
