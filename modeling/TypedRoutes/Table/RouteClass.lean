import TypedRoutes.Table.Field

/-!
Contract: route classes.

Owns: the class with its fields, and the way its fields are filled from captures.
-/

set_option autoImplicit false

namespace TypedRoutes.Table

inductive Layout where
  /-- Each field takes the text captured under its name. -/
  | named
  /-- Fields take the captured texts in order. -/
  | positional
  /-- There is nothing to fill. -/
  | unit
deriving DecidableEq, Repr

def Layout.word : Layout → String
  | .named => "named"
  | .positional => "positional"
  | .unit => "unit"

/-- A class whose instances are routes. -/
structure RouteClass where
  cls : ClassRef
  /-- The name of the class that the fields were declared in, which can be one that this class is
  derived from. -/
  origin : Text
  shape : Shape
  fields : List Field

namespace RouteClass

/-- The fields that an instance is made from. -/
def arguments (route : RouteClass) : List Field :=
  match route.shape with
  | .bare => []
  | _ => route.fields.filter (·.isArgument)

def layout (route : RouteClass) : Layout :=
  if route.arguments.isEmpty then .unit
  else
    match route.shape with
    | .record => .named
    | .tuple => .positional
    | .bare => .unit

end RouteClass

end TypedRoutes.Table
