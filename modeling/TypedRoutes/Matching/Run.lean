import TypedRoutes.Matching.Captures
import TypedRoutes.Program.Stops
import TypedRoutes.Text.Blank
import TypedRoutes.Text.Lowercase

/-!
Contract: running a program against a route.

Instructions are taken in order and none is taken back. Fixed text has to come next in the route. A
capture of one segment ends before the leftmost of its stops; an open capture whose stops do not
apply takes the longest run of characters it may hold. A capture of several segments takes all but
the last up to a slash each. An optional group matches as a whole or is left out.

In a comparison without regard to case the text of a route may be shorter than the text it is
compared with, because a character can have two in lower case. A cursor therefore also counts how
far the comparisons have gone past the end of the route.

Owns: the cursor, the capture rule and the run. Does not own: what has to be left of the route.
-/

set_option autoImplicit false

namespace TypedRoutes.Matching

open TypedRoutes.Text TypedRoutes.Program

/-- A place in a route: the text that is left, and how far a comparison has gone past the end. -/
structure Cursor where
  rest : Text
  past : Nat := 0
deriving DecidableEq, Repr

def Cursor.atEnd (cursor : Cursor) : Bool :=
  cursor.rest.isEmpty && cursor.past = 0

/-- The cursor after fixed text, if the route goes on with it. With `fold` both are compared in
lower case. -/
def Cursor.skip? (fold : Bool) (text : Text) (cursor : Cursor) : Option Cursor :=
  let found :=
    if fold then lowercase (cursor.rest.take text.length) = lowercase text
    else text.isPrefixOf cursor.rest
  if found then
    some
      { rest := cursor.rest.drop text.length
        past := cursor.past + (text.length - cursor.rest.length) }
  else none

/-- The characters that part a route and never belong to a captured text. The slash may belong to
one that spans any number of segments. -/
def isDelimiter (many : Bool) (c : Char) : Bool :=
  ['?', '&', '#', '=', '{', '}'].contains c || (!many && c = '/')

def isCaptureChar (many : Bool) (c : Char) : Bool :=
  !isDelimiter many c && !isBlank c

/-- Whether a text occurs at the start of another, wholly inside it. -/
def occursAt (fold : Bool) (rest text : Text) : Bool :=
  if fold then
    text.length ≤ rest.length && lowercase (rest.take text.length) = lowercase text
  else text.isPrefixOf rest

/-- The number of characters before the first tail with a property, the empty tail included. -/
def firstTail? (holds : Text → Bool) : Text → Option Nat
  | [] => if holds [] then some 0 else none
  | c :: rest =>
    if holds (c :: rest) then some 0 else (firstTail? holds rest).map (· + 1)

/-- The number of characters before the leftmost occurrence of any of the texts. -/
def firstStop? (fold : Bool) (texts : List Text) (rest : Text) : Option Nat :=
  firstTail? (fun tail => texts.any (occursAt fold tail)) rest

def runLength (many : Bool) (rest : Text) : Nat :=
  (rest.takeWhile (isCaptureChar many)).length

/-- The length of the last segment of a capture, if it can end at all. -/
def segmentLength? (fold many : Bool) (stops : Stops) (cursor : Cursor) : Option Nat :=
  let longest := runLength many cursor.rest
  let openEnd : Option Nat :=
    if !stops.isOpen then none
    else if longest = 0 && !(many && cursor.atEnd) then none
    else some longest
  match firstStop? fold stops.texts cursor.rest with
  | some length => if 0 < length ∧ length ≤ longest then some length else openEnd
  | none => openEnd

/-- Segments that each end in a slash, and what follows the last slash. -/
def leadingSegments? : Nat → Text → Option (List Text × Text)
  | 0, rest => some ([], rest)
  | count + 1, rest =>
    let segment := rest.takeWhile (isCaptureChar false)
    match rest.dropWhile (isCaptureChar false) with
    | '/' :: after =>
      if segment.isEmpty then none
      else (leadingSegments? count after).map fun (segments, left) => (segment :: segments, left)
    | _ => none

def isAllowed (fold : Bool) (allowed : Option (List Text)) (text : Text) : Bool :=
  match allowed with
  | none => true
  | some texts =>
    if fold then texts.any fun option => lowercase text = lowercase option
    else texts.contains text

def capture? (fold : Bool) (block : Pattern.Capture) (stops : Stops) (cursor : Cursor) :
    Option (Text × Cursor) :=
  match leadingSegments? (block.segments - 1).toNat cursor.rest with
  | none => none
  | some (segments, rest) =>
    let last : Cursor := { cursor with rest }
    match segmentLength? fold block.isMany stops last with
    | none => none
    | some length =>
      let text := join ['/'] (segments ++ [rest.take length])
      if isAllowed fold block.allowed text then
        some (text, { last with rest := rest.drop length })
      else none

/-- Runs a program from a cursor. The result is the entries of the captures in order and the cursor
at the end. -/
def run (fold : Bool) : Program → Cursor → Option (List Entry × Cursor)
  | .nil, cursor => some ([], cursor)
  | .item (.fixed text) rest, cursor =>
    match cursor.skip? fold text with
    | none => none
    | some next => run fold rest next
  | .item (.capture block) rest, cursor =>
    match capture? fold block (stops rest) cursor with
    | none => none
    | some (text, next) =>
      (run fold rest next).map fun (entries, last) => (⟨block.name, text⟩ :: entries, last)
  | .item .stop rest, cursor => if cursor.atEnd then run fold rest cursor else none
  | .group inner rest, cursor =>
    match run fold inner cursor with
    | none => run fold rest cursor
    | some (entries, next) =>
      (run fold rest next).map fun (more, last) => (entries ++ more, last)

end TypedRoutes.Matching
