import TypedRoutes.Declaration.MemberName
import TypedRoutes.Mapping
import TypedRoutes.Text.Blank
import TypedRoutes.Value.Enumeration

/-!
Contract: the body of an enumeration, from its first entry to its last.

Each entry is looked at with those before it in mind: a name that is a member already cannot come
again, and a name that has been listed as one to ignore becomes none. When the body has come to its
end, what is to be ignored is dropped.

Owns: the body, its growth by an entry, and why an entry is refused.
-/

set_option autoImplicit false

namespace TypedRoutes.Declaration

open TypedRoutes.Text

inductive EntryError where
  | reserved (name : Text)
  | repeated (name shown : Text)
  /-- Names are to be ignored that are members already. -/
  | alreadySet (names : List Text)
  | obstacle (error : Obstacle)
deriving DecidableEq, Repr

namespace EntryError

def message : EntryError → String
  | .reserved name =>
    "_sunder_ names, such as " ++ quote name ++ ", are reserved for future Enum use"
  | .repeated name shown => quote name ++ " already defined as " ++ String.ofList shown
  | .alreadySet names =>
    "_ignore_ cannot specify already set names: " ++
      String.ofList ('{' :: join [',', ' '] (names.map quoted) ++ ['}'])
  | .obstacle error => error.message

def blame : EntryError → Blame
  | .reserved _ | .alreadySet _ => .content
  | .repeated _ _ => .kind
  | .obstacle error => error.blame

end EntryError

/-- The texts that a value lists: the words of a text, between which commas can stand, or the parts
of a tuple. -/
def listedParts (value : Value) : Except Obstacle (List Value) :=
  match value.asText? with
  | some content =>
    let spaced := content.map fun c => if c = ',' then ' ' else c
    .ok ((words spaced).map (.scalar ∘ .text))
  | none => value.items

def listsName (values : List Value) (name : Text) : Bool :=
  values.any fun value => value.agrees (.scalar (.text name))

/-- The body of an enumeration as far as it has been read. -/
structure Body where
  /-- All that names stand for, those of members included. -/
  stored : Mapping Value := []
  /-- The names of members, in order. -/
  members : List Text := []
  /-- What is to be ignored. -/
  ignored : List Value := []

namespace Body

def ignores (body : Body) (name : Text) : Bool :=
  listsName body.ignored name

/-- The body with something stored under a name that is no member's. -/
def keep (body : Body) (name : Text) (value : Value) : Body :=
  { body with stored := Mapping.store body.stored name value }

def ignore (body : Body) (value : Value) : Except EntryError Body :=
  match listedParts value with
  | .error error => .error (.obstacle error)
  | .ok listed =>
    match body.members.filter (listsName listed) with
    | [] => .ok { body with ignored := listed }
    | names => .error (.alreadySet names)

def repeatedName (name : Text) (value : Value) : EntryError :=
  match value.shown with
  | .ok shown => .repeated name shown
  | .error error => .obstacle error

def addMember (body : Body) (name : Text) (value : Value) : Except EntryError Body :=
  let known := Mapping.get? body.stored name
  if !body.members.contains name && body.ignores name then .ok (body.keep name value)
  else
    match known with
    | some earlier => .error (repeatedName name earlier)
    | none =>
      .ok
        { body with
          stored := Mapping.store body.stored name value
          members := body.members ++ [name] }

def put (enumeration : Text) (body : Body) (name : Text) (value : Value) :
    Except EntryError Body :=
  match nameUse enumeration name with
  | .apart kept => .ok (body.keep kept value)
  | .ignoring => body.ignore value
  | .refused => .error (.reserved name)
  | .member => body.addMember name value

def putAll (enumeration : Text) (body : Body) : List (Text × Value) → Except EntryError Body
  | [] => .ok body
  | (name, value) :: rest =>
    match body.put enumeration name value with
    | .error error => .error error
    | .ok next => next.putAll enumeration rest

/-- What remains stored at the end. -/
def remaining (body : Body) : Mapping Value :=
  body.stored.filter fun entry => !body.ignores entry.1

def entries (body : Body) : List (Text × Value) :=
  body.remaining.filter fun entry => body.members.contains entry.1

/-- What is stored under names that are no members'. -/
def apart (body : Body) : Mapping Value :=
  body.remaining.filter fun entry => !body.members.contains entry.1

end Body

end TypedRoutes.Declaration
