import TypedRoutes.Number.Integer
import TypedRoutes.Pattern.Token

/-!
Contract: the pattern text of tokens.

A brace of a literal is doubled; everything else is written as it stands. A key or a literal value
of a query pair is written as it stands as well, also when it holds a brace.

Owns: the text of captures, tokens and patterns. Does not own: reading that text.
-/

set_option autoImplicit false

namespace TypedRoutes.Pattern

open TypedRoutes.Number

def escapeBraces (text : Text) : Text :=
  text.flatMap fun c => if c = '{' ∨ c = '}' then [c, c] else [c]

/-- What stands between the braces of a capture, its list of allowed texts apart. -/
def Capture.head (capture : Capture) : Text :=
  match capture.extent, capture.name with
  | .one, none => []
  | .one, some name => name
  | .many, none => ['*']
  | .many, some name => '*' :: ':' :: name
  | .exactly segments, none => integerText segments
  | .exactly segments, some name => integerText segments ++ ':' :: name

def Capture.allowedText (capture : Capture) : Text :=
  match capture.allowed with
  | none => []
  | some allowed => '(' :: Text.join ['|'] allowed ++ [')']

def Capture.source (capture : Capture) : Text :=
  '{' :: capture.head ++ capture.allowedText ++ ['}']

/-- The pattern text of a token. Fixed text is shown like a literal. -/
def Token.source : Token → Text
  | .slash => ['/']
  | .literal text => escapeBraces text
  | .capture block => block.source
  | .question => ['?']
  | .ampersand => ['&']
  | .pair key (.literal value) => key ++ '=' :: value
  | .pair key (.capture block) => key ++ '=' :: block.source
  | .hash => ['#']
  | .stop => ['!']
  | .fixed text => escapeBraces text

end TypedRoutes.Pattern

namespace TypedRoutes

def Pattern.source : Pattern → Text
  | .nil => []
  | .item token rest => token.source ++ Pattern.source rest
  | .group inner rest => '(' :: Pattern.source inner ++ ')' :: Pattern.source rest

/-- The first fixed text in a pattern, which keeps the pattern from having a text of its own. -/
def Pattern.firstFixed? : Pattern → Option Text
  | .nil => none
  | .item (.fixed text) _ => some text
  | .item _ rest => Pattern.firstFixed? rest
  | .group inner rest => (Pattern.firstFixed? inner).orElse fun _ => Pattern.firstFixed? rest

@[simp] theorem Pattern.source_append (first second : Pattern) :
    Pattern.source (first ++ second) = Pattern.source first ++ Pattern.source second := by
  induction first with
  | nil => rfl
  | item head rest inductionHypothesis =>
    simp [Pattern.source, inductionHypothesis]
  | group inner rest _ inductionHypothesis =>
    simp [Pattern.source, inductionHypothesis]

end TypedRoutes
