import TypedRoutes.Number.FloatText
import TypedRoutes.Value.Uuid

/-!
Contract: the plain values that captured text converts to and routes are written from.

Owns: the values, their texts (in a route, on their own, and as shown in listings), the names of
their kinds and the comparison in which numbers of different kinds can be equal.
-/

set_option autoImplicit false

namespace TypedRoutes

open TypedRoutes.Number TypedRoutes.Text

inductive Scalar where
  | none
  | text (content : Text)
  | integer (number : Int)
  | float (number : Binary64)
  | boolean (truth : Bool)
  | uuid (identifier : Uuid)
deriving DecidableEq, Repr, Inhabited

namespace Scalar

def plain : Scalar → Text
  | .none => "None".toList
  | .text content => content
  | .integer number => integerText number
  | .float number => FloatStyle.standard.text number
  | .boolean true => "True".toList
  | .boolean false => "False".toList
  | .uuid identifier => identifier.text

def routeText : Scalar → Text
  | .boolean true => "true".toList
  | .boolean false => "false".toList
  | scalar => scalar.plain

def shown : Scalar → Text
  | .text content => quoted content
  | .uuid identifier => "UUID(".toList ++ quoted identifier.text ++ [')']
  | scalar => scalar.plain

def kindName : Scalar → Text
  | .none => "NoneType".toList
  | .text _ => "str".toList
  | .integer _ => "int".toList
  | .float _ => "float".toList
  | .boolean _ => "bool".toList
  | .uuid _ => "UUID".toList

/-- A finite number as a ratio. Truth values count as one and zero. -/
def ratio? : Scalar → Option (Int × Nat)
  | .integer number => some (number, 1)
  | .boolean truth => some (if truth then 1 else 0, 1)
  | .float (.finite negative mantissa exponent) =>
    let size : Int := mantissa * Binary64.upscale exponent
    some (if negative then -size else size, Binary64.downscale exponent)
  | _ => Option.none

/-- Whether two values are equal. Numbers are compared by what they stand for, whatever their kind;
no number equals itself if it is not a number. -/
def agrees (first second : Scalar) : Bool :=
  match first.ratio?, second.ratio? with
  | some (a, b), some (c, d) => a * d = c * b
  | Option.none, Option.none => first = second && first ≠ .float .nan
  | _, _ => false

end Scalar

end TypedRoutes
