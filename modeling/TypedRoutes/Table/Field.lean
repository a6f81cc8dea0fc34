import TypedRoutes.Value.Expression

/-!
Contract: the fields of route classes.

A field that is not given a value can have one all the same: its default, or what its factory makes
when it is needed, and not before.

Owns: fields as they are declared, and what becomes of a field that a match does not supply.
-/

set_option autoImplicit false

namespace TypedRoutes.Table

/-- A field of a route class. It has a default or a factory, but not both. -/
structure Field where
  name : Text
  type : FieldType
  /-- The value of the field when none is given. -/
  declaredDefault : Option Value := none
  /-- What makes the value of the field, anew each time, when none is given. -/
  factory : Option ValueExpression := none
  /-- Whether the field receives the payload of a route. -/
  isState : Bool := false
  /-- Whether a value can be given when an instance is made. -/
  isArgument : Bool := true

namespace Field

variable {ε : Type}

/-- The type of the field, without its being optional. -/
def kind (field : Field) : FieldType :=
  field.type.splitOptional.1

def isOptional (field : Field) : Bool :=
  field.type.splitOptional.2

/-- The default of the field. A field for the payload has the absent value as its default. -/
def default? (field : Field) : Option Value :=
  if field.isState then some .absent else field.declaredDefault

def ownValue? (produce : ValueExpression → Except ε Value) (field : Field) :
    Option (Except ε Value) :=
  match field.default?, field.factory with
  | some value, _ => some (.ok value)
  | none, some recipe => some (produce recipe)
  | none, none => none

def hasOwnValue (field : Field) : Bool :=
  field.default?.isSome || field.factory.isSome

def isRequired (field : Field) : Bool :=
  !(field.hasOwnValue || field.isOptional || field.isState)

/-- The value of the field when no captured text is there for it: its own value, or the absent
value if that will do. -/
def fallback? (produce : ValueExpression → Except ε Value) (field : Field) :
    Option (Except ε Value) :=
  match field.ownValue? produce with
  | some value => some value
  | none => if field.isOptional then some (.ok .absent) else none

/-- A field that a match need not supply has a value without it. -/
theorem isRequired_eq_false_iff (produce : ValueExpression → Except ε Value) (field : Field) :
    field.isRequired = false ↔ (field.fallback? produce).isSome = true := by
  unfold isRequired fallback? ownValue? hasOwnValue default?
  cases field.isState <;> cases field.declaredDefault <;> cases field.factory <;>
    cases field.isOptional <;> simp

end Field

end TypedRoutes.Table
