import TypedRoutes.Number.Integer
import TypedRoutes.Pattern.Token
import TypedRoutes.Text.Quoted

/-!
Contract: the outline of tokens, which spells out what each of them is and holds.

Owns: the names under which listings show the kinds of tokens, and the outline of captures, tokens,
elements and whole sequences.
-/

set_option autoImplicit false

namespace TypedRoutes.Pattern

open TypedRoutes.Number TypedRoutes.Text

private def fieldOutline (name : String) (value : Text) : Text :=
  name.toList ++ '=' :: value

/-- A kind with its fields in round brackets. -/
private def outlineOf (kind : String) (fields : List Text) : Text :=
  kind.toList ++ '(' :: join [',', ' '] fields ++ [')']

def Capture.formOutline (capture : Capture) : Text :=
  match capture.extent, capture.name with
  | .one, none => outlineOf "Unnamed" []
  | .one, some name => outlineOf "Named" [fieldOutline "name" (quoted name)]
  | .many, none => outlineOf "ManyUnnamed" []
  | .many, some name => outlineOf "ManyNamed" [fieldOutline "name" (quoted name)]
  | .exactly segments, none =>
    outlineOf "NumberedUnnamed" [fieldOutline "sections" (integerText segments)]
  | .exactly segments, some name =>
    outlineOf "NumberedNamed"
      [fieldOutline "sections" (integerText segments), fieldOutline "name" (quoted name)]

def allowedOutline : Option (List Text) → Text
  | none => "None".toList
  | some allowed => roundList (allowed.map quoted)

def Capture.outline (capture : Capture) : Text :=
  outlineOf "Capture"
    [fieldOutline "variant" capture.formOutline,
      fieldOutline "allowed" (allowedOutline capture.allowed)]

def Token.outline : Token → Text
  | .slash => outlineOf "Separator" []
  | .literal text => outlineOf "Literal" [fieldOutline "text" (quoted text)]
  | .capture block => block.outline
  | .question => outlineOf "QueryBegin" []
  | .ampersand => outlineOf "QuerySeparator" []
  | .pair key (.literal value) =>
    outlineOf "QueryCapture" [fieldOutline "key" (quoted key), fieldOutline "value" (quoted value)]
  | .pair key (.capture block) =>
    outlineOf "QueryCapture"
      [fieldOutline "key" (quoted key), fieldOutline "value" block.outline]
  | .hash => outlineOf "FragmentBegin" []
  | .stop => outlineOf "End" []
  | .fixed text => outlineOf "Exact" [fieldOutline "literal" (quoted text)]

def groupOutline (inner : List Text) : Text :=
  outlineOf "OptionalGroup" [fieldOutline "tokens" (roundList inner)]

def outlines : Pattern → List Text
  | .nil => []
  | .item token rest => token.outline :: outlines rest
  | .group inner rest => groupOutline (outlines inner) :: outlines rest

def elementOutline : Element Token → Text
  | .item token => token.outline
  | .group inner => groupOutline (outlines inner)

end TypedRoutes.Pattern
