import TypedRoutes.Display.Palette
import TypedRoutes.Number.Integer
import TypedRoutes.Text.Quoted

/-!
Contract: what can be wrong with the text of a pattern, and how it is shown.

A fault names the kinds of text that could have stood at its place and, when more is known, a
reason. While a pattern is read a fault carries the text that is left at its place; a diagnosis
carries the place as an offset into the pattern.

Owns: kinds, reasons, faults, diagnoses and the display of a diagnosis.
-/

set_option autoImplicit false

namespace TypedRoutes.Pattern

open TypedRoutes.Display TypedRoutes.Text

/-- The kinds of text a pattern is made of, as far as they can be asked for. -/
inductive Kind where
  | slash
  | literal
  | capture
  | numberedCapture
  | manyCapture
  | question
  | ampersand
  | capturePair
  | literalPair
  | hash
  | stop
  | groupOpen
  | groupClose
  | captureClose
  | identifier
deriving DecidableEq, Repr

/-- All kinds in the order in which they are listed. -/
def Kind.all : List Kind :=
  [.slash, .literal, .capture, .numberedCapture, .manyCapture, .question, .ampersand,
    .capturePair, .literalPair, .hash, .stop, .groupOpen, .groupClose, .captureClose, .identifier]

def Kind.ordered (kinds : List Kind) : List Kind :=
  Kind.all.filter (kinds.contains ·)

theorem Kind.mem_all (kind : Kind) : kind ∈ Kind.all := by
  cases kind <;> decide

@[simp] theorem Kind.mem_ordered {kinds : List Kind} {kind : Kind} :
    kind ∈ Kind.ordered kinds ↔ kind ∈ kinds := by
  simp [Kind.ordered, Kind.mem_all]

def Kind.shown : Kind → String
  | .slash => "/"
  | .literal => "<literal>"
  | .capture => "\x7b<ident>\x7d"
  | .numberedCapture => "\x7b<number>:<ident>\x7d"
  | .manyCapture => "\x7b*:<ident>\x7d"
  | .question => "?"
  | .ampersand => "&"
  | .capturePair => "<literal>=\x7b<ident>\x7d"
  | .literalPair => "<literal>=<literal>"
  | .hash => "#"
  | .stop => "!"
  | .groupOpen => "("
  | .groupClose => ")"
  | .captureClose => "\x7d"
  | .identifier => "<ident>"

def captureKinds : List Kind := [.capture, .numberedCapture, .manyCapture]

def pairKinds : List Kind := [.capturePair, .literalPair]

/-- Why a token is refused, beyond not being of an expected kind. -/
inductive Reason where
  | tokensAfterStop
  | doubleSlash
  | ampersandBeforeQuestion
  | adjacentCaptures
  | secondQuestion
  | badIdentifier
  | zeroSegments
  | emptyGroup
  | unclosedGroup
  | markInGroup
  | concreteAfterGroup
  | unknownState
  | impossibleToken
deriving DecidableEq, Repr

def Reason.explanation (character : Option Text) : Reason → String
  | .tokensAfterStop => "Characters appeared after the end token (!)."
  | .doubleSlash => "Two slashes are not allowed next to each other (//)."
  | .ampersandBeforeQuestion => "The first query must be indicated with a '?', not a '&'."
  | .adjacentCaptures =>
    "Capture groups can't be next to each other. " ++
      "There must be some character in between the '\x7d' and '\x7b' characters."
  | .secondQuestion =>
    "Query parameters can only be indicated with '?' once per route. " ++
      "Additional parameters are joined with '&'."
  | .badIdentifier =>
    "Identifier can't contain " ++ ((character.map quote).getD "None") ++ "."
  | .zeroSegments => "A numbered capture must span at least one section."
  | .emptyGroup => "Optional sections can't be empty."
  | .unclosedGroup => "Optional section is missing its closing ')'."
  | .markInGroup => "Optional sections can't begin a query or a fragment, or end the route."
  | .concreteAfterGroup =>
    "Only another optional section may follow an optional section " ++
      "before the query, fragment or end token."
  | .unknownState => "Library error: the parser reached an invalid state."
  | .impossibleToken =>
    "Library error: the parser produced a token its state machine does not allow."

/-- A fault at the place where `rest` is left to read. -/
structure Fault where
  reason : Option Reason := none
  expected : List Kind
  rest : Text
  badChar : Option Char := none
deriving DecidableEq, Repr

/-- Why a pattern cannot be read: a fault of its form, or a number that is no readable integer
although it is made of digits. -/
inductive Refusal where
  | fault (fault : Fault)
  | number (error : Number.IntegerError)
deriving DecidableEq, Repr

/-- A fault with its place as an offset into a pattern. A diagnosis that is put together by hand can
have its place before the pattern; the caret then moves into the lead of the line. -/
structure Diagnosis where
  reason : Option Reason
  expected : List Kind
  offset : Int
  pattern : Text
  badChar : Option Text
deriving DecidableEq, Repr

/-- The fault as a diagnosis. `base` is the offset in the pattern at which the reader of `scanned`
began. -/
def Fault.diagnosis (fault : Fault) (pattern : Text) (base : Nat) (scanned : Text) : Diagnosis where
  reason := fault.reason
  expected := fault.expected
  offset := (base + (scanned.length - fault.rest.length) : Nat)
  pattern := pattern
  badChar := fault.badChar.map ([·])

inductive PatternError where
  | malformed (diagnosis : Diagnosis)
  | number (error : Number.IntegerError)
deriving DecidableEq, Repr

def Refusal.locate (pattern : Text) (base : Nat) (scanned : Text) : Refusal → PatternError
  | .fault found => .malformed (found.diagnosis pattern base scanned)
  | .number error => .number error

namespace Diagnosis

def explanation? (diagnosis : Diagnosis) : Option String :=
  diagnosis.reason.map (Reason.explanation diagnosis.badChar)

def expectedText (diagnosis : Diagnosis) : String :=
  ", ".intercalate ((Kind.ordered diagnosis.expected).map fun kind => "\"" ++ kind.shown ++ "\"")

def lead : String := "Route: "

/-- The display of a diagnosis: the pattern, a caret under the place of the fault, the expected
kinds and the reason. -/
def render (palette : Palette) (diagnosis : Diagnosis) : String :=
  let dashes := "".pushn '-' (lead.length + diagnosis.offset).toNat
  let header :=
    [palette.paint (palette.red ++ palette.bold) "Could not parse route.",
      palette.paint palette.dim lead ++ String.ofList diagnosis.pattern,
      palette.paint palette.dim dashes ++ palette.paint palette.red "^"]
  let expected :=
    if diagnosis.expected.isEmpty then []
    else [palette.paint palette.dim "Expected one of:" ++ " " ++ diagnosis.expectedText]
  let reason :=
    match diagnosis.explanation? with
    | none => []
    | some text => [palette.paint palette.yellow "Reason:" ++ " " ++ text]
  "\n".intercalate (header ++ expected ++ reason)

end Diagnosis

end TypedRoutes.Pattern
