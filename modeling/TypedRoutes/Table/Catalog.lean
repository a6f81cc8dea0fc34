import TypedRoutes.Mapping
import TypedRoutes.Matching.Matcher
import TypedRoutes.Table.RouteClass

/-!
Contract: the catalog of everything declared so far.

The newest declaration comes first. A declaration is known by its number, the count of those before
it, so that the types of its fields refer to smaller numbers only and any traversal of references
recurses on the declarations. Names stand for declarations; one declaration can have several. A name
that is given again stands for the later one, unless it is only offered: then it stays with the
first.

Route classes have a current form: the matcher that reading them on their own uses. A table keeps
the forms its classes had when it was declared. A class in the body of a table can have the name of
an operation of the table, and stands in its place then.

Owns: forms, variants, tables, declarations, names, look-up and the replacement of a current form.
-/

set_option autoImplicit false

namespace TypedRoutes.Table

open TypedRoutes.Matching

structure Form where
  matcher : Matcher
  /-- Whether the settings were chosen for the class itself. -/
  hasOwnSettings : Bool

/-- A route class as a table knows it. -/
structure Variant where
  route : RouteClass
  matcher : Matcher

structure RouteTable where
  cls : ClassRef
  /-- The route classes in the order in which they are tried. -/
  variants : List Variant
  /-- The classes under labels in the body of the table, and in those of the tables it extends. -/
  parts : Mapping ClassRef := []

inductive Declared where
  | enumeration (choices : Enumeration)
  /-- A class; with a form it is a route class. -/
  | route (chosen : RouteClass) (form : Option Form)
  | table (table : RouteTable)

namespace Declared

def cls : Declared → ClassRef
  | .enumeration choices => choices.cls
  | .route chosen _ => chosen.cls
  | .table chosen => chosen.cls

def type (declared : Declared) : FieldType :=
  match declared with
  | .enumeration choices => .enumeration choices
  | _ => .declared declared.cls

/-- Whether the fields of a declaration are known by position. -/
def isTuple : Declared → Bool
  | .route chosen _ => chosen.shape = .tuple
  | _ => false

def shown (declared : Declared) : Text :=
  declared.type.shown

end Declared

/-- All declarations and names. -/
structure Catalog where
  /-- The declarations, the newest first. -/
  declarations : List Declared := []
  names : Mapping ClassRef := []

namespace Catalog

/-- The number of the next declaration. -/
def size (catalog : Catalog) : Nat :=
  catalog.declarations.length

/-- The catalog with one more declaration, as yet without a name. -/
def add (catalog : Catalog) (declared : Declared) : Catalog :=
  { catalog with declarations := declared :: catalog.declarations }

def giveName (catalog : Catalog) (name : Text) (cls : ClassRef) : Catalog :=
  { catalog with names := Mapping.store catalog.names name cls }

/-- The catalog with one more name for a declaration, if the name is free. -/
def offerName (catalog : Catalog) (name : Text) (cls : ClassRef) : Catalog :=
  if (Mapping.get? catalog.names name).isSome then catalog else catalog.giveName name cls

def numberedIn? : List Declared → Nat → Option Declared
  | [], _ => none
  | declared :: earlier, number =>
    if number = earlier.length then some declared else numberedIn? earlier number

def declared? (catalog : Catalog) (cls : ClassRef) : Option Declared :=
  numberedIn? catalog.declarations cls.number

/-- The class in the place of an operation of a table: the one under the operation's name. -/
def part? (catalog : Catalog) (table : RouteTable) (operation : String) : Option Declared :=
  (Mapping.get? table.parts operation.toList).bind catalog.declared?

def find? (catalog : Catalog) (name : Text) : Option Declared :=
  match Mapping.get? catalog.names name with
  | none => none
  | some cls => catalog.declared? cls

/-- The class with a number and its current form, if it is a route class. -/
def form? (catalog : Catalog) (cls : ClassRef) : Option (RouteClass × Form) :=
  match catalog.declared? cls with
  | some (.route chosen (some form)) => some (chosen, form)
  | _ => none

def setForm (catalog : Catalog) (cls : ClassRef) (form : Form) : Catalog :=
  { catalog with
    declarations :=
      catalog.declarations.map fun declared =>
        match declared with
        | .route chosen (some old) =>
          .route chosen (some (if chosen.cls = cls then form else old))
        | _ => declared }

@[simp] theorem size_setForm (catalog : Catalog) (cls : ClassRef) (form : Form) :
    (catalog.setForm cls form).size = catalog.size := by
  simp [setForm, size]

end Catalog

end TypedRoutes.Table
