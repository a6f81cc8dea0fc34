import TypedRoutes.Matching.Run
import TypedRoutes.Matching.Settings
import TypedRoutes.Pattern.Reading
import TypedRoutes.Program.Assembly

/-!
Contract: patterns made ready to match routes.

Owns: the matcher with its pattern, program and settings, the two ways to match, and the names that
a match can or must deliver.
-/

set_option autoImplicit false

namespace TypedRoutes.Matching

open TypedRoutes.Text TypedRoutes.Program

structure Matcher where
  text : Text
  pattern : Pattern
  program : Program
  settings : Settings
deriving DecidableEq, Repr

inductive Verdict where
  | matched (captures : Captures)
  /-- The program ran, but some of the route was left that should have been used up. -/
  | leftOver (rest : Text)
  | failed
deriving DecidableEq, Repr

namespace Matcher

def compile (text : Text) (settings : Settings) : Except Pattern.PatternError Matcher :=
  (Pattern.read text).map fun pattern =>
    { text, pattern, settings, program := Program.ofPattern (!settings.strict) pattern }

def withSettings (matcher : Matcher) (settings : Settings) : Matcher :=
  { matcher with settings, program := Program.ofPattern (!settings.strict) matcher.pattern }

def start (matcher : Matcher) (route : Text) : Option (List Entry × Cursor) :=
  run matcher.settings.caseInsensitive matcher.program { rest := route }

/-- Matches a route: all of it when the settings say so, else a part at its start. -/
def verdict (matcher : Matcher) (route : Text) : Verdict :=
  match matcher.start route with
  | none => .failed
  | some (entries, cursor) =>
    if matcher.settings.complete && !cursor.atEnd then .leftOver cursor.rest
    else .matched ⟨entries⟩

def match? (matcher : Matcher) (route : Text) : Option Captures :=
  match matcher.verdict route with
  | .matched captures => some captures
  | _ => none

theorem match?_eq_some_iff {matcher : Matcher} {route : Text} {captures : Captures} :
    matcher.match? route = some captures ↔ matcher.verdict route = .matched captures := by
  unfold match?
  cases matcher.verdict route <;> simp

/-- The captures of a match of a part at the start of a route, and what is left. -/
def matchStart? (matcher : Matcher) (route : Text) : Option (Captures × Text) :=
  (matcher.start route).map fun (entries, cursor) => (⟨entries⟩, cursor.rest)

/-- The names of all named captures, each once, in the order of code points. -/
def names (matcher : Matcher) : List Text :=
  sorted (matcher.program.captures.filterMap (·.name)).eraseDups

/-- The names that every match delivers, each once, in the order of code points. -/
def requiredNames (matcher : Matcher) : List Text :=
  sorted (matcher.program.topCaptures.filterMap (·.name)).eraseDups

/-- The number of captures that every match fills. -/
def captureCount (matcher : Matcher) : Nat :=
  matcher.program.topCaptures.length

def outline (matcher : Matcher) : String :=
  "CompiledMatcher(pattern=" ++ quote matcher.text ++ ", settings=" ++ matcher.settings.outline ++
    ")"

end Matcher

end TypedRoutes.Matching
