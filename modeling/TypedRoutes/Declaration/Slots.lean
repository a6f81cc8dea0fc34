import TypedRoutes.Declaration.MemberName
import TypedRoutes.Text.Identifier
import TypedRoutes.Value.Enumeration

/-!
Contract: slots, names of parts that the body of an enumeration sets aside for its members.

Slots are names, so they have to be spelled as such. There can be none where members are integers,
none for what every member has anyway, and none for what the enumeration itself has a value for.

Owns: which slots there can be, and why there cannot be others.
-/

set_option autoImplicit false

namespace TypedRoutes.Declaration

open TypedRoutes.Text

inductive SlotError where
  /-- Members are integers, which have no place for slots. -/
  | inInteger
  /-- A slot is a value of this kind, and no text. -/
  | noText (kind : Text)
  | noIdentifier
  | dictionary
  | reference
  /-- There is a value of the name of a slot. -/
  | conflict (name : Text)
  | undivided (error : Obstacle)
deriving DecidableEq, Repr

namespace SlotError

def message : SlotError → String
  | .inInteger => "nonempty __slots__ not supported for subtype of 'int'"
  | .noText kind => "__slots__ items must be strings, not " ++ quote kind
  | .noIdentifier => "__slots__ must be identifiers"
  | .dictionary => "__dict__ slot disallowed: we already got one"
  | .reference =>
    "__weakref__ slot disallowed: either we already got one, or __itemsize__ != 0"
  | .conflict name => quote name ++ " in __slots__ conflicts with class variable"
  | .undivided error => error.message

def blame : SlotError → Blame
  | .conflict _ => .content
  | .undivided error => error.blame
  | _ => .kind

end SlotError

def enumerationParts : List Text :=
  ["_generate_next_value_", "_new_member_", "_use_args_", "_member_names_", "_member_map_",
    "_value2member_map_", "_unhashable_values_", "_member_type_", "_value_repr_", "_boundary_",
    "_flag_mask_", "_singles_mask_", "_all_bits_", "_inverted_", "__module__",
    "__slots__"].map String.toList

/-- The complaint about the spelling of a slot, or the slot. -/
def slotName (value : Value) : Except SlotError Text :=
  match value.asText? with
  | none => .error (.noText value.bareKind)
  | some name =>
    if !isIdentifier name then .error .noIdentifier
    else if name = "__dict__".toList then .error .dictionary
    else if name = "__weakref__".toList then .error .reference
    else .ok name

/-- The complaint about the slots that a value declares, in an enumeration of the given name and
kind with values for the given names. -/
def slotError? (enumeration : Text) (kind : ValueKind) (known : List Text) (value : Value) :
    Option SlotError :=
  let listed := if value.asText?.isSome then .ok [value] else value.items
  match listed with
  | .error error => some (.undivided error)
  | .ok [] => none
  | .ok values =>
    if kind = .integer then some .inInteger
    else
      match values.mapM slotName with
      | .error error => some error
      | .ok names =>
        let found := (names.map (privateName enumeration)).find? fun name =>
          known.contains name || enumerationParts.contains name
        found.map .conflict

end TypedRoutes.Declaration
