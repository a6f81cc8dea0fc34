import TypedRoutes.Value.Conversion

/-!
Contract: values as declarations and requests spell them.

Numbers and identifiers are spelled by a text that still has to be read; classes and members are
named. What an expression stands for depends on what has been declared.

Owns: the expressions.
-/

set_option autoImplicit false

namespace TypedRoutes

/-- A value as it is spelled. -/
inductive ValueExpression where
  | scalar (plain : Scalar)
  /-- The value that a converter reads from the text. -/
  | spelled (converter : Converter) (text : Text)
  | member (enumeration name : Text)
  | record (cls : Text) (arguments : List (Text × ValueExpression))
deriving Repr, Inhabited

end TypedRoutes
