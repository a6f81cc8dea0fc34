import TypedRoutes.Table.Evaluation

/-!
Contract: types as declarations and requests spell them, with classes by name.

Owns: the type expressions and what they stand for in a catalog.
-/

set_option autoImplicit false

namespace TypedRoutes.Declaration

open TypedRoutes.Table

/-- A type in which classes are named. -/
inductive TypeExpression where
  | known (type : FieldType)
  | optional (inner : TypeExpression)
  | union (alternatives : List TypeExpression)
  | listOf (element : TypeExpression)
  | named (name : Text)
deriving Repr, Inhabited

mutual

def TypeExpression.evaluate (catalog : Catalog) : TypeExpression → Except ExpressionError FieldType
  | .known type => .ok type
  | .optional inner => (inner.evaluate catalog).map .optional
  | .union alternatives => (evaluateTypes catalog alternatives).map .union
  | .listOf element => (element.evaluate catalog).map .listOf
  | .named name =>
    match catalog.find? name with
    | none => .error (.undeclared name)
    | some declared => .ok declared.type

def evaluateTypes (catalog : Catalog) :
    List TypeExpression → Except ExpressionError (List FieldType)
  | [] => .ok []
  | first :: rest =>
    match first.evaluate catalog with
    | .error error => .error error
    | .ok type => (evaluateTypes catalog rest).map (type :: ·)

end

end TypedRoutes.Declaration
