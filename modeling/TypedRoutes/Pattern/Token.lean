import TypedRoutes.Grouped
import TypedRoutes.Text.Basic

/-!
Contract: the vocabulary of patterns.

A pattern is a sequence of tokens and optional groups. A capture stands for a part of a route that
varies; it spans one segment, any number of segments or a given number of them, may have a name,
and may list the texts it admits.

Owns: captures, tokens and patterns as values. Does not own: their text, or which token may follow
which.
-/

set_option autoImplicit false

namespace TypedRoutes.Pattern

inductive Extent where
  | one
  | many
  | exactly (segments : Int)
deriving DecidableEq, Repr

/-- A part of a route that varies. -/
structure Capture where
  extent : Extent
  name : Option Text
  allowed : Option (List Text) := none
deriving DecidableEq, Repr

/-- The number of segments a capture spans; one unless a number is given. -/
def Capture.segments (capture : Capture) : Int :=
  match capture.extent with
  | .exactly segments => segments
  | _ => 1

def Capture.isMany (capture : Capture) : Bool :=
  match capture.extent with
  | .many => true
  | _ => false

inductive PairValue where
  | literal (text : Text)
  | capture (block : Capture)
deriving DecidableEq, Repr

/-- What a pattern is made of, groups apart. -/
inductive Token where
  /-- The separator of path segments. -/
  | slash
  /-- Characters that stand for themselves, with escapes resolved. -/
  | literal (text : Text)
  | capture (block : Capture)
  /-- The mark that begins the query. -/
  | question
  /-- The mark between two query pairs. -/
  | ampersand
  | pair (key : Text) (value : PairValue)
  /-- The mark that begins the fragment. -/
  | hash
  /-- The mark after which nothing may be left of the route. -/
  | stop
  /-- Text fixed by an assembled program. No pattern text denotes it. -/
  | fixed (text : Text)
deriving DecidableEq, Repr

/-- The capture of a token, on its own or as the value of a query pair. -/
def Token.capture? : Token → Option Capture
  | .capture block => some block
  | .pair _ (.capture block) => some block
  | _ => none

end TypedRoutes.Pattern

namespace TypedRoutes

/-- A pattern as a sequence of tokens and optional groups. -/
abbrev Pattern := Grouped Pattern.Token

/-- All captures of a pattern in order, those in groups and query pairs included. -/
def Pattern.captures (pattern : Pattern) : List Pattern.Capture :=
  pattern.flatten.filterMap Pattern.Token.capture?

end TypedRoutes
