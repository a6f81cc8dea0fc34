import TypedRoutes.Table.Catalog
import TypedRoutes.Table.Instance

/-!
Contract: the values that expressions stand for.

An expression is evaluated in the catalog as it is at that moment, so that a factory can name
classes declared after its own. Making an instance can run factories, which make instances in turn;
a chain of factories longer than a fixed bound counts as endless.

Owns: evaluation.
-/

set_option autoImplicit false

namespace TypedRoutes.Table

open TypedRoutes.Text

def enumerationMaker : Text := "EnumType.__call__".toList

def enumerationArguments : List Text :=
  ["value", "names", "module", "qualname", "type", "start", "boundary"].map String.toList

def foreignArgument (name : Text) : ArgumentError :=
  if name = "cls".toList then .repeated enumerationMaker name
  else .unexpected enumerationMaker name

/-- The member of an enumeration with a value, which can be the member itself. -/
def memberOf (choices : Enumeration) (value : Value) : Except ExpressionError Value :=
  match value with
  | .member enumeration kind name content =>
    if enumeration = choices.cls then .ok (.member enumeration kind name content) else look
  | _ => look
where
  look :=
    match value.isKey with
    | .error error => .error (.obstacle error)
    | .ok _ =>
      match choices.withValue? value, value.shown, choices.cls.replacement? "_missing_" with
      | some member, _, _ => .ok member.value
      | none, .error error, _ => .error (.obstacle error)
      | none, .ok _, some kind => .error (.obstacle (.uncallable kind))
      | none, .ok shown, none => .error (.noSuchValue shown choices.cls.name)

/-- The new enumeration that is made by calling one with a name and names of members. -/
def extended (choices : Enumeration) (base : Value) (name : Value) :
    Except ExpressionError Value :=
  if !base.isAbsent then
    .error (.obstacle (.missing base.bareKind "__mro__".toList))
  else
    match name.shown with
    | .error error => .error (.obstacle error)
    | .ok shown =>
      if choices.entries.isEmpty then
        .ok (.foreign "EnumType".toList ("<enum ".toList ++ shown ++ ['>']))
      else .error (.notExtended shown choices.cls.bareName)

/-- What is made by calling an enumeration: the member with a value, or with names of members a new
enumeration, unless it has members itself. -/
def callEnumeration (choices : Enumeration) (given : Mapping Value) :
    Except ExpressionError Value :=
  let argument := fun name => Mapping.get? given (String.toList name)
  match given.find? fun entry => !enumerationArguments.contains entry.1, argument "value" with
  | some (name, _), _ => .error (.arguments (foreignArgument name))
  | none, none => .error (.arguments (.missing enumerationMaker ["value".toList]))
  | none, some value =>
    if ((argument "names").getD .absent).isAbsent then memberOf choices value
    else extended choices ((argument "type").getD .absent) value

/-- The instance of a table, which is made of nothing. -/
def RouteTable.construct (table : RouteTable) (isGivenNone : Bool) : Except ExpressionError Value :=
  if isGivenNone then .ok (.record table.cls .bare [] [])
  else .error (.arguments (.takesNone table.cls.bareName))

def Declared.construct (produce : Producer) (given : List (Text × Value)) :
    Declared → Except ExpressionError Value
  | .route chosen _ => chosen.construct produce given
  | .enumeration choices => callEnumeration choices (Mapping.ofEntries given)
  | .table chosen => chosen.construct given.isEmpty

def Declared.constructInOrder (produce : Producer) (given : List Value) :
    Declared → Except ExpressionError Value
  | .route chosen _ => chosen.constructInOrder produce given
  | .enumeration choices => callEnumeration choices (enumerationArguments.zip given)
  | .table chosen => chosen.construct given.isEmpty

/-- The member of a declared class under a name. A tuple has no members, but takes whatever stands
in the place of one for the kind of its fields; in another class a field can stand in the place of
the look-up. -/
def Declared.member (name : Text) : Declared → Except ExpressionError Value
  | .enumeration choices =>
    match choices.member? name with
    | some chosen => .ok chosen.value
    | none => .error (.noMember name)
  | declared =>
    if declared.isTuple then
      .ok
        (.foreign "GenericAlias".toList
          ("app.".toList ++ declared.cls.name ++ '[' :: quoted name ++ [']']))
    else
      match (declared.cls.replacement? "__class_getitem__").filter (· ≠ Value.absent.bareKind) with
      | some kind => .error (.obstacle (.uncallable kind))
      | none => .error (.noMembers declared.cls.bareName)

namespace Catalog

mutual

/-- The value that an expression stands for, with a producer for what factories make. -/
def evaluateWith (produce : Producer) (catalog : Catalog) : Producer
  | .scalar plain => .ok (.scalar plain)
  | .spelled converter text => (converter.read text).mapError .unreadable
  | .member enumeration name =>
    match catalog.find? enumeration with
    | none => .error (.undeclared enumeration)
    | some declared => declared.member name
  | .record cls given =>
    match catalog.find? cls with
    | none => .error (.undeclared cls)
    | some declared =>
      match evaluateArguments produce catalog given with
      | .error error => .error error
      | .ok values => declared.construct produce values

def evaluateArguments (produce : Producer) (catalog : Catalog) :
    List (Text × ValueExpression) → Except ExpressionError (List (Text × Value))
  | [] => .ok []
  | (name, expression) :: rest =>
    match evaluateWith produce catalog expression with
    | .error error => .error error
    | .ok value => (evaluateArguments produce catalog rest).map ((name, value) :: ·)

end

/-- The value that an expression stands for, if its factories call each other no deeper than the
bound. -/
def evaluateWithin (catalog : Catalog) : Nat → Producer
  | 0, _ => .error .endless
  | depth + 1, expression => catalog.evaluateWith (catalog.evaluateWithin depth) expression

/-- A chain of factories of this length counts as endless. -/
def depthLimit : Nat := 1000

def evaluate (catalog : Catalog) : Producer :=
  catalog.evaluateWithin depthLimit

end Catalog

end TypedRoutes.Table
