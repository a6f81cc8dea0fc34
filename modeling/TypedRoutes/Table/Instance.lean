import TypedRoutes.Blame
import TypedRoutes.Mapping
import TypedRoutes.Table.RouteClass
import TypedRoutes.Text.NormalForm

/-!
Contract: making instances of classes.

An instance is made from values for the arguments of its class. A field without one gets its own
value; factories run at that moment, in the order of the fields. Arguments given by name have to be
arguments of the class, and those without a value of their own have to be given.

While an instance is made, values go by the names of their fields, and what makes the instance goes
by names as well: a field can be named like a part of the making, and takes its place then.

Owns: instances, and why none comes about.
-/

set_option autoImplicit false

namespace TypedRoutes.Table

open TypedRoutes.Text

inductive ArgumentError where
  | unexpected (maker name : Text)
  /-- A value is given for the instance itself. -/
  | repeated (maker name : Text)
  | missing (maker : Text) (names : List Text)
  | takesNone (cls : Text)
  /-- More values are given in order than are taken; the instance itself counts as one. -/
  | tooMany (maker : Text) (least most given : Nat)
  /-- A field stands in the place of what takes the arguments. -/
  | untaken
  /-- A field stands in the place of what gives values to fields. -/
  | ungiven
deriving DecidableEq, Repr

def namePhrase : List Text → Text
  | [] => []
  | [name] => quoted name
  | [first, second] => quoted first ++ " and ".toList ++ quoted second
  | names =>
    join [',', ' '] (names.dropLast.map quoted) ++ ", and ".toList ++
      quoted (names.getLast?.getD [])

def ArgumentError.message : ArgumentError → String
  | .unexpected maker name =>
    String.ofList maker ++ "() got an unexpected keyword argument '" ++ String.ofList name ++ "'"
  | .repeated maker name =>
    String.ofList maker ++ "() got multiple values for argument '" ++ String.ofList name ++ "'"
  | .missing maker names =>
    let plural := if names.length = 1 then "" else "s"
    s!"{String.ofList maker}() missing {names.length} required positional argument{plural}: " ++
      String.ofList (namePhrase names)
  | .takesNone cls => String.ofList cls ++ "() takes no arguments"
  | .tooMany maker least most given =>
    let range := if least = most then toString most else s!"from {least} to {most}"
    let plural := if least = most && most = 1 then "" else "s"
    s!"{String.ofList maker}() takes {range} positional argument{plural} but {given} were given"
  | .untaken => "object.__new__() takes exactly one argument (the type to instantiate)"
  | .ungiven => " expected 2 arguments, got 3"

inductive ExpressionError where
  /-- No such class has been declared. -/
  | undeclared (name : Text)
  | unreadable (error : ConversionError)
  | noMember (name : Text)
  /-- A member is asked of a class that has none. -/
  | noMembers (cls : Text)
  /-- An enumeration has no member of the shown value. -/
  | noSuchValue (shown enumeration : Text)
  /-- An enumeration with members cannot be extended to one of the shown name. -/
  | notExtended (shown enumeration : Text)
  | arguments (error : ArgumentError)
  /-- An operation on a value is not possible. -/
  | obstacle (error : Obstacle)
  /-- Factories call each other without end. -/
  | endless
deriving DecidableEq, Repr

namespace ExpressionError

def message : ExpressionError → String
  | .undeclared name => String.ofList name
  | .unreadable error => error.message
  | .noMember name => quote name
  | .noMembers cls => "type " ++ quote cls ++ " is not subscriptable"
  | .noSuchValue shown enumeration =>
    String.ofList shown ++ " is not a valid " ++ String.ofList enumeration
  | .notExtended shown enumeration =>
    "<enum " ++ String.ofList shown ++ "> cannot extend <enum " ++ quote enumeration ++ ">"
  | .arguments error => error.message
  | .obstacle error => error.message
  | .endless => "maximum recursion depth exceeded"

def blame : ExpressionError → Blame
  | .undeclared _ => .undeclared
  | .unreadable error => error.blame
  | .noMember _ => .key
  | .noMembers _ => .kind
  | .noSuchValue _ _ => .content
  | .notExtended _ _ => .kind
  | .arguments _ => .kind
  | .obstacle error => error.blame
  | .endless => .depth

end ExpressionError

/-- A way to make the value that an expression stands for. -/
abbrev Producer := ValueExpression → Except ExpressionError Value

/-- What stands for the value of an argument that is to come from its factory. -/
def factoryMark : Value :=
  .foreign "_HAS_DEFAULT_FACTORY_CLASS".toList "<factory>".toList

/-- What goes by the name of an argument while an instance is made. -/
def Field.passed (given : Mapping Value) (field : Field) : Value :=
  (Mapping.get? given field.name).getD (field.default?.getD factoryMark)

/-- Whether what goes by the name of an argument stands for its factory. What is compared with is
itself known by a name, which an argument can have. -/
def isFactoryMark (arguments : List Field) (given : Mapping Value) (field : Field) : Bool :=
  match arguments.find? fun other => other.name = "_HAS_DEFAULT_FACTORY".toList with
  | none => field.passed given = factoryMark
  | some other =>
    other.name = field.name ||
      (field.passed given = factoryMark && other.passed given = factoryMark)

/-- What a factory makes. It is known by a name while an instance is made, which an argument can
have. -/
def Field.manufacture (produce : Producer) (arguments : List Field) (given : Mapping Value)
    (field : Field) (recipe : ValueExpression) :
    Except ExpressionError Value :=
  match arguments.find? fun other => other.name = "_dflt_".toList ++ field.name with
  | some other => .error (.obstacle (.uncallable (other.passed given).bareKind))
  | none => produce recipe

/-- The value of a field of an instance, if it comes to have one. -/
def Field.settle (produce : Producer) (arguments : List Field) (given : Mapping Value)
    (field : Field) :
    Except ExpressionError (Option Value) :=
  match field.default?, field.factory with
  | none, some recipe =>
    if field.isArgument && !isFactoryMark arguments given field then .ok (some (field.passed given))
    else (field.manufacture produce arguments given recipe).map some
  | default, _ =>
    .ok ((if field.isArgument then Mapping.get? given field.name else none).or default)

/-- Settles fields in order: those that have values, and the names of those that have none. -/
def settleAll (produce : Producer) (arguments : List Field) (given : Mapping Value) :
    List Field → Except ExpressionError (List (Text × Value) × List Text)
  | [] => .ok ([], [])
  | field :: rest =>
    match field.settle produce arguments given with
    | .error error => .error error
    | .ok found =>
      (settleAll produce arguments given rest).map fun (settled, unset) =>
        match found with
        | some value => ((field.name, value) :: settled, unset)
        | none => (settled, field.name :: unset)

namespace RouteClass

def hasArgument (route : RouteClass) (name : String) : Bool :=
  route.arguments.any fun field => field.name = name.toList

/-- The complaint about a class with something else in the place of a part of the making. -/
def unmade? (route : RouteClass) (isGivenAny : Bool) : Option ExpressionError :=
  match route.cls.replacement? "__new__", route.cls.replacement? "__init__" with
  | some kind, _ => some (.obstacle (.uncallable kind))
  | none, initializer =>
    if route.fields.any (fun field => field.name = "__new__".toList) && isGivenAny then
      some (.arguments .untaken)
    else initializer.map (.obstacle ∘ .uncallable)

/-- The complaint when everything has been settled: what is to be done with an instance at the end
can have a value in its place. -/
def unfinished? (route : RouteClass) (settled : List (Text × Value)) : Option ExpressionError :=
  (route.cls.replacement? "__post_init__").map fun kind =>
    .obstacle
      (.uncallable (((Mapping.get? settled "__post_init__".toList).map Value.bareKind).getD kind))

def make (produce : Producer) (route : RouteClass) (given : Mapping Value) :
    Except ExpressionError Value :=
  match route.unmade? !given.isEmpty with
  | some error => .error error
  | none =>
    if route.hasArgument "__dataclass_builtins_object__" then .error (.arguments .ungiven)
    else
      match settleAll produce route.arguments given route.fields with
      | .error error => .error error
      | .ok (settled, unset) =>
        match route.unfinished? settled with
        | some error => .error error
        | none => .ok (.record route.cls route.shape settled unset)

def maker (route : RouteClass) : Text :=
  match route.shape with
  | .tuple => route.origin ++ ".__new__".toList
  | _ => route.origin ++ ".__init__".toList

/-- The name by which the value of a field is given. A tuple knows its fields by place, and by name
only in the normal form of the name. -/
def argumentName (route : RouteClass) (field : Field) : Text :=
  if route.shape = .tuple then normalForm field.name else field.name

/-- The name by which what makes instances knows the one in the making. -/
def receiver (route : RouteClass) : Text :=
  match route.shape with
  | .tuple => "_cls".toList
  | _ =>
    if route.fields.any fun field => field.name = "self".toList then "__dataclass_self__".toList
    else "self".toList

def foreignName (route : RouteClass) (name : Text) : ArgumentError :=
  if route.shape = .bare then .takesNone route.cls.bareName
  else if name = route.receiver then .repeated route.maker name
  else .unexpected route.maker name

def refusal? (route : RouteClass) (given : Mapping Value) : Option ArgumentError :=
  let names := route.arguments.map route.argumentName
  match given.find? fun entry => !names.contains entry.1 with
  | some (name, _) => some (route.foreignName name)
  | none =>
    let missing :=
      route.arguments.filter fun field =>
        !field.hasOwnValue && (Mapping.get? given (route.argumentName field)).isNone
    if missing.isEmpty then none else some (.missing route.maker (missing.map route.argumentName))

def byField (route : RouteClass) (given : Mapping Value) : Mapping Value :=
  route.arguments.filterMap fun field =>
    (Mapping.get? given (route.argumentName field)).map (field.name, ·)

/-- The instance with given arguments, if they fit the class. Of arguments of one name the last
counts. -/
def construct (produce : Producer) (route : RouteClass) (given : List (Text × Value)) :
    Except ExpressionError Value :=
  let arguments := Mapping.ofEntries given
  match route.unmade? !given.isEmpty with
  | some error => .error error
  | none =>
    match route.refusal? arguments with
    | some error => .error (.arguments error)
    | none => route.make produce (route.byField arguments)

def constructInOrder (produce : Producer) (route : RouteClass) (given : List Value) :
    Except ExpressionError Value :=
  let names := route.arguments.map route.argumentName
  if given.length ≤ names.length then route.construct produce (names.zip given)
  else
    let needed := route.arguments.filter (!·.hasOwnValue)
    let refusal : ArgumentError :=
      if route.shape = .bare then .takesNone route.cls.bareName
      else .tooMany route.maker (needed.length + 1) (names.length + 1) (given.length + 1)
    .error ((route.unmade? true).getD (.arguments refusal))

end RouteClass

end TypedRoutes.Table
