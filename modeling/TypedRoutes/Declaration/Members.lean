import TypedRoutes.Declaration.Basic
import TypedRoutes.Declaration.Body
import TypedRoutes.Declaration.Slots

/-!
Contract: enumerations from their bodies.

What the body of an enumeration keeps apart from its members can stand in the place of what makes
them, which is lost then; so it is of no importance as long as there are no members. The body can
also say which members there are to be, in which order.

Owns: the enumeration of a body, and why there is none. Does not own: the single entries.
-/

set_option autoImplicit false

namespace TypedRoutes.Declaration

open TypedRoutes.Table TypedRoutes.Text

inductive MemberError where
  /-- A value stands for nothing. -/
  | expression (error : ExpressionError)
  | entry (error : EntryError)
  | impossible (names : List Text)
  /-- There is a zero character in the name of the enumeration. -/
  | zeroCharacter
  | slots (error : SlotError)
  /-- A value of the shown kind stands in the place of the enumeration itself. -/
  | cell (shown : Text)
  /-- Nothing can be stored in a member that is made of a value of a kind. -/
  | noContent
  /-- A value is not of the kind that the enumeration insists on. -/
  | coercion (error : CoercionError)
  | obstacle (error : Obstacle)
  /-- The members, and as they are shown the names that they were to have. -/
  | order (members shown : List Text)
  /-- Options are given to an enumeration of this name. -/
  | options (enumeration : Text)
deriving DecidableEq, Repr

namespace MemberError

def message : MemberError → String
  | .expression error => error.message
  | .entry error => error.message
  | .impossible names =>
    "invalid enum member name(s) " ++ String.ofList (join [','] (names.map quoted))
  | .zeroCharacter => "type name must not contain null characters"
  | .slots error => error.message
  | .cell shown => "__classcell__ must be a nonlocal cell, not " ++ String.ofList shown
  | .noContent => "_value_ not set in __new__, unable to create it"
  | .coercion error => error.message
  | .obstacle error => error.message
  | .order members shown =>
    "member order does not match _order_:\n  " ++ String.ofList (quotedList members) ++ "\n  [" ++
      String.ofList (join [',', ' '] shown ++ [']'])
  | .options enumeration =>
    String.ofList enumeration ++ ".__init_subclass__() takes no keyword arguments"

def blame : MemberError → Blame
  | .expression error => error.blame
  | .entry error => error.blame
  | .impossible _ | .zeroCharacter => .content
  | .slots error => error.blame
  | .coercion error => error.blame
  | .obstacle error => error.blame
  | .cell _ | .noContent | .order _ _ | .options _ => .kind

end MemberError

/-- What stands in the place of operations, by the kinds of values under their names. What says when
members are equal takes their use as keys away. -/
def replacements (apart : Mapping Value) : List (Text × Text) :=
  let hash := "__hash__".toList
  let kinds := apart.map fun (name, value) => (name, value.bareKind)
  if (Mapping.get? apart "__eq__".toList).isSome && (Mapping.get? apart hash).isNone then
    (hash, Value.absent.bareKind) :: kinds
  else kinds

/-- The complaint about something in the place of one of several operations. -/
def loss (cls : ClassRef) (operations : List String) : Except MemberError Unit :=
  (cls.need operations).mapError .obstacle

def makeContent (cls : ClassRef) (kind : ValueKind) (value : Value) : Except MemberError Value := do
  if cls.replacement? "__new__" ≠ some Value.absent.bareKind then loss cls ["__new__"]
  let content ← (kind.coerce value).mapError .coercion
  loss cls ["__getattribute__", "__getattr__"]
  if kind ≠ .any && (cls.replacement? "__setattr__").isSome then throw .noContent
  loss cls ["__setattr__", "__init__"]
  let _ ← content.isKey.mapError .obstacle
  return content

def makeContents (cls : ClassRef) (kind : ValueKind) :
    List (Text × Value) → Except MemberError (List (Text × Value))
  | [] => .ok []
  | (name, value) :: rest =>
    match makeContent cls kind value with
    | .error error => .error error
    | .ok content => (makeContents cls kind rest).map ((name, content) :: ·)

def countsAsNothing (value : Value) : Bool :=
  value.isAbsent || value.agrees (.scalar (.integer 0))

def shownAll : List Value → Except Obstacle (List Text)
  | [] => .ok []
  | value :: rest =>
    match value.shown with
    | .error error => .error error
    | .ok text => (shownAll rest).map (text :: ·)

/-- Checks the members of an enumeration against the order that they are to have, which can include
aliases. -/
def checkOrder (enumeration : Enumeration) (order : Value) : Except MemberError Unit :=
  if countsAsNothing order then .ok ()
  else
    match listedParts order with
    | .error error => .error (.obstacle error)
    | .ok [] => .ok ()
    | .ok listed =>
      let names := enumeration.members.map (·.name)
      let isAlias := fun (value : Value) =>
        enumeration.entries.any (fun entry => value.agrees (.scalar (.text entry.1))) &&
          !names.any fun name => value.agrees (.scalar (.text name))
      let expected := listed.filter fun value => !isAlias value
      let named := fun (value : Value) (name : Text) => value.agrees (.scalar (.text name))
      if expected.length = names.length && (expected.zipWith named names).all id then .ok ()
      else
        match shownAll expected with
        | .error error => .error (.obstacle error)
        | .ok shown => .error (.order names shown)

/-- The enumeration of a body, for a class that can have been derived from another one. -/
def Body.enumeration (body : Body) (cls : ClassRef) (kind : ValueKind) (hasOptions : Bool) :
    Except MemberError Enumeration := do
  let entries := body.entries
  let isMember := fun name => (Mapping.get? entries name).isSome
  match impossibleNames.filter isMember with
  | [] => pure ()
  | names => throw (.impossible names)
  let apart := body.apart.filter fun entry => entry.1 ≠ orderName
  match Mapping.get? apart "__slots__".toList with
  | none => pure ()
  | some slots =>
    match slotError? cls.name kind ((entries ++ apart).map (·.1)) slots with
    | none => pure ()
    | some error => throw (.slots error)
  if cls.name.contains '\x00' then throw .zeroCharacter
  match Mapping.get? apart "__classcell__".toList with
  | none => pure ()
  | some value => throw (.cell value.shownKind)
  let own := { cls with replaced := replacements apart ++ cls.replaced }
  let contents ← makeContents own kind entries
  loss cls ["__init_subclass__"]
  if hasOptions then throw (.options cls.name)
  let enumeration : Enumeration := ⟨own, kind, contents⟩
  match Mapping.get? body.remaining orderName with
  | none => return enumeration
  | some order =>
    checkOrder enumeration order
    return enumeration

def enumerationOf (cls : ClassRef) (kind : ValueKind) (hasOptions : Bool)
    (entries : List (Text × Value)) :
    Except MemberError Enumeration :=
  match ({} : Body).putAll cls.name entries with
  | .error error => .error (.entry error)
  | .ok body => body.enumeration cls kind hasOptions

def declareMembers (catalog : Catalog) (cls : ClassRef) (kind : ValueKind)
    (declarations : List (Text × ValueExpression)) :
    Except MemberError Enumeration := do
  let values ←
    declarations.mapM fun (name, expression) =>
      ((catalog.evaluate expression).map (name, ·)).mapError .expression
  enumerationOf cls kind false values

end TypedRoutes.Declaration
