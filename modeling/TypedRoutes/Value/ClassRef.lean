import TypedRoutes.Text.Basic

/-!
Contract: references to declared classes.

Instances of a class share operations: they can be shown, written, compared and used as keys. A
declaration can put something in the place of an operation; as nothing that is declared can be
called, the operation is lost.

Owns: the reference, with what stands in the place of operations, and the bare name in it.
-/

set_option autoImplicit false

namespace TypedRoutes

def lastPart (name : Text) : Text :=
  (name.reverse.takeWhile (· ≠ '.')).reverse

/-- A declared class: its number among all declarations, its qualified name, and the kinds of what
stands in the place of operations. -/
structure ClassRef where
  number : Nat
  name : Text
  replaced : List (Text × Text) := []
deriving DecidableEq, Repr, Inhabited

namespace ClassRef

def bareName (cls : ClassRef) : Text :=
  lastPart cls.name

/-- The kind of what stands in the place of an operation. -/
def replacement? (cls : ClassRef) (operation : String) : Option Text :=
  (cls.replaced.find? fun entry => entry.1 = operation.toList).map (·.2)

end ClassRef

end TypedRoutes
