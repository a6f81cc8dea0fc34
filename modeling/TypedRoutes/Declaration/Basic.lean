import TypedRoutes.Declaration.Expression

/-!
Contract: what can be declared.

Owns: the declarations as they are written down.
-/

set_option autoImplicit false

namespace TypedRoutes.Declaration

open TypedRoutes.Matching

/-- A field as it is written down. -/
structure FieldDeclaration where
  name : Text
  type : TypeExpression
  default : Option ValueExpression := none
  /-- A default that is made anew for each instance. -/
  factory : Option ValueExpression := none
  isState : Bool := false
  isArgument : Bool := true

/-- A route class as it is written down. Without a pattern it is a class and no route. -/
structure RouteDeclaration where
  name : Text
  pattern : Option Text
  settings : Choice
  shape : Shape
  fields : List FieldDeclaration

/-- A clause in the body of a table. -/
inductive Clause where
  | route (declaration : RouteDeclaration)
  /-- A class declared earlier, under a name of its own in the body. -/
  | use (cls label : Text)

inductive Statement where
  | enumeration (name : Text) (entries : List (Text × ValueExpression)) (kind : ValueKind)
  /-- A class that is no route. -/
  | plain (name : Text)
  | route (declaration : RouteDeclaration)
  | table (name : Text) (base : Option Text) (settings : Choice) (body : List Clause)

def Statement.name : Statement → Text
  | .enumeration name _ _ => name
  | .plain name => name
  | .route declaration => declaration.name
  | .table name _ _ _ => name

end TypedRoutes.Declaration
