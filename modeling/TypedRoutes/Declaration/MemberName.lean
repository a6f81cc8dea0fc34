import TypedRoutes.Text.Basic

/-!
Contract: what names in the body of an enumeration are for.

Some names are set aside: one that begins and ends with two underscores, and one that begins with
the name of the enumeration between underscores, name no member; one that begins and ends with a
single underscore is refused, unless it has a meaning of its own.

Owns: the uses of names. Does not own: what is done with them.
-/

set_option autoImplicit false

namespace TypedRoutes.Declaration

open TypedRoutes.Text

/-- Whether a name stands between underscores, as many on either side as asked for. -/
def isBetween (count : Nat) (name : Text) : Bool :=
  let line := List.replicate count '_'
  2 * count < name.length && line.isPrefixOf name && line.isSuffixOf name &&
    name[count]? ≠ some '_' && name[name.length - count - 1]? ≠ some '_'

/-- Whether a name belongs to an enumeration alone: it begins with the name of the enumeration
between one and two underscores, and does not end with two. -/
def isPrivate (enumeration name : Text) : Bool :=
  let lines := ['_', '_']
  let start := '_' :: enumeration ++ lines
  start.length < name.length && start.isPrefixOf name && !lines.isSuffixOf name

/-- The name of the order that members are declared to have. -/
def orderName : Text := "_order_".toList

/-- The name of the list of names that are to be set aside. -/
def ignoringName : Text := "_ignore_".toList

/-- The names between single underscores that have a meaning of their own. -/
def specialNames : List Text :=
  orderName :: ignoringName ::
    ["_generate_next_value_", "_numeric_repr_", "_missing_", "_iter_member_",
      "_iter_member_by_value_", "_iter_member_by_def_"].map String.toList

/-- What a name in the body of an enumeration is for. -/
inductive NameUse where
  | member
  /-- What the name stands for is kept apart, under this name. -/
  | apart (kept : Text)
  /-- The name stands for a list of names that are to be set aside. -/
  | ignoring
  | refused
deriving DecidableEq, Repr

def nameUse (enumeration name : Text) : NameUse :=
  if isPrivate enumeration name then .apart name
  else if isBetween 1 name then
    if name = ignoringName then .ignoring
    else if specialNames.contains name then .apart name
    else .refused
  else if isBetween 2 name then
    .apart (if name = "__order__".toList then orderName else name)
  else .member

def impossibleNames : List Text := ["mro", ""].map String.toList

/-- A name as it is known inside a class: one that begins with two underscores, and does not end
with two, belongs to the class alone. -/
def privateName (cls name : Text) : Text :=
  let lines := ['_', '_']
  let owner := cls.dropWhile (· = '_')
  if lines.isPrefixOf name && !lines.isSuffixOf name && !owner.isEmpty then '_' :: owner ++ name
  else name

end TypedRoutes.Declaration
