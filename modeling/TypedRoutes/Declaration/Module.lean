import TypedRoutes.Declaration.Declare

/-!
Contract: modules, declarations made one after the other.

A refused declaration adds nothing to the catalog, but the complaint is kept with its name, so that
a use of the name can report it. It is of no importance if the name is declared at another time
without complaint.

Owns: modules, their growth and the look-up of names.
-/

set_option autoImplicit false

namespace TypedRoutes.Declaration

open TypedRoutes.Table

/-- What has been declared in a module, and what has not. -/
structure Module where
  catalog : Catalog := {}
  /-- The names declared in the module itself. -/
  names : List Text := []
  complaints : Mapping DeclarationError := []

namespace Module

/-- The module after one more declaration, and the complaint if it is refused. -/
def declare (module : Module) (statement : Statement) : Module × Option DeclarationError :=
  match Declaration.declare module.catalog statement with
  | .error error =>
    ({ module with complaints := Mapping.store module.complaints statement.name error },
      some error)
  | .ok catalog => ({ module with catalog, names := statement.name :: module.names }, none)

def declareAll (module : Module) : List Statement → Module × List (Option DeclarationError)
  | [] => (module, [])
  | first :: rest =>
    let (next, complaint) := module.declare first
    let (last, complaints) := next.declareAll rest
    (last, complaint :: complaints)

def lookUp (module : Module) (name : Text) : Option (Except DeclarationError Declared) :=
  if module.names.contains name then (module.catalog.find? name).map .ok
  else (Mapping.get? module.complaints name).map .error

end Module

end TypedRoutes.Declaration
