/-!
Contract: what complaints are about, in broad terms.

Every complaint of this library belongs to one class. Whoever handles complaints decides by the
class; who reads them has the wording.

Owns: the classes.
-/

set_option autoImplicit false

namespace TypedRoutes

/-- The class of a complaint. -/
inductive Blame where
  /-- A pattern is malformed. -/
  | pattern
  /-- Fields do not fit the pattern of their class. -/
  | configuration
  /-- A value cannot be written as a route. -/
  | writing
  /-- A name stands for nothing. -/
  | undeclared
  /-- A value is of the wrong kind. -/
  | kind
  /-- A value is of the right kind and unfit all the same. -/
  | content
  /-- There is nothing under a key. -/
  | key
  /-- There is no such part of a value. -/
  | part
  /-- A number is too large. -/
  | size
  /-- A computation has no end. -/
  | depth
  /-- Names of arguments cannot stand side by side. -/
  | names
deriving DecidableEq, Repr

end TypedRoutes
