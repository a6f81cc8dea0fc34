import TypedRoutes.Value.Enumeration

/-!
Contract: the types that fields of routes can be declared with.

Owns: the types, unions without repetition, the split of an optional type into what it makes
optional, and the written form of types.
-/

set_option autoImplicit false

namespace TypedRoutes

open TypedRoutes.Text

/-- The type of a field. A union is nested to the right and holds at least two alternatives, none of
them a union and none of them twice. -/
inductive FieldType where
  | text
  | integer
  | float
  | boolean
  | uuid
  | any
  | object
  | bytes
  | list
  | complex
  | none
  | listOf (element : FieldType)
  | either (first rest : FieldType)
  | enumeration (choices : Enumeration)
  | declared (cls : ClassRef)
deriving DecidableEq, Repr, Inhabited

namespace FieldType

/-- The alternatives of a type in order; a type that is no union is its own only alternative. -/
def alternatives : FieldType → List FieldType
  | .either first rest => first.alternatives ++ rest.alternatives
  | type => [type]

def ofAlternatives : List FieldType → FieldType
  | [] => .none
  | [type] => type
  | type :: rest => .either type (ofAlternatives rest)

/-- The union of types: unions among them are opened, repetitions dropped. -/
def union (types : List FieldType) : FieldType :=
  ofAlternatives (types.flatMap alternatives).eraseDups

def optional (type : FieldType) : FieldType :=
  union [type, .none]

/-- The type that a union of one type and the absent value makes optional, and whether it is such a
union. Any other type stands for itself. -/
def splitOptional (type : FieldType) : FieldType × Bool :=
  match type.alternatives with
  | [first, second] =>
    if second = .none then (first, true)
    else if first = .none then (second, true)
    else (type, false)
  | _ => (type, false)

/-- The name of a type that stands on its own. -/
def name : FieldType → Text
  | .text => "str".toList
  | .integer => "int".toList
  | .float => "float".toList
  | .boolean => "bool".toList
  | .uuid => "uuid.UUID".toList
  | .any => "typing.Any".toList
  | .object => "object".toList
  | .bytes => "bytes".toList
  | .list => "list".toList
  | .complex => "complex".toList
  | .none => "NoneType".toList
  | .enumeration choices => "app.".toList ++ choices.cls.name
  | .declared cls => "app.".toList ++ cls.name
  | .listOf _ => []
  | .either _ _ => []

/-- The form of a type inside another one. In a union the absent value has a short form. -/
def shownInside (inUnion : Bool) : FieldType → Text
  | .listOf element => "list[".toList ++ shownInside false element ++ [']']
  | .either first rest => shownInside true first ++ [' ', '|', ' '] ++ shownInside true rest
  | .none => if inUnion then "None".toList else "NoneType".toList
  | type => type.name

def annotation : FieldType → Text
  | .any => "Any".toList
  | type => shownInside false type

def shown : FieldType → Text
  | .any => "typing.Any".toList
  | .listOf element => shownInside false (.listOf element)
  | .either first rest => shownInside false (.either first rest)
  | .enumeration choices => "<enum ".toList ++ quoted (lastPart choices.cls.name) ++ ['>']
  | type => "<class ".toList ++ quoted type.name ++ ['>']

end FieldType

end TypedRoutes
