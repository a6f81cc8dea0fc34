import TypedRoutes.Pattern.Lexeme.Remainder

/-!
Contract: reading the text of a pattern.

The reader keeps the level it is in, the elements read on it and its state, and below it a stack
of the levels that wait for a group to close. Every element passes `State.step` before it is kept,
so an illegal sequence is refused at its first offending character.

Owns: `Pattern.read`. Does not own: single tokens and the rules of succession.
-/

set_option autoImplicit false

namespace TypedRoutes.Pattern

/-- A level of nesting: the elements read so far and the state after them. -/
structure Level where
  elements : Pattern := .nil
  state : State := .initial
deriving DecidableEq, Repr

/-- A level that waits for a group to close, with the text from the group's opening on. -/
structure Frame where
  outer : Level
  opened : Text
deriving DecidableEq, Repr

def Level.push (level : Level) (element : Element Token) (next : State) : Level where
  elements := level.elements ++ Grouped.single element
  state := next

def Token.isPartMark : Token → Bool
  | .question | .ampersand | .hash | .stop => true
  | _ => false

def stepFault (state : State) (reason : Option Reason) (inGroup : Bool) (rest : Text) : Fault where
  reason := reason
  expected := state.expected inGroup
  rest := rest

/-- Takes a token into the level. No group holds the mark of a new part. -/
def Level.take (level : Level) (token : Token) (inGroup : Bool) (input : Text) :
    Except Refusal Level :=
  if inGroup && token.isPartMark then
    .error (.fault (stepFault level.state (some .markInGroup) true input))
  else
    match level.state.step (.item token) with
    | .error reason => .error (.fault (stepFault level.state reason inGroup input))
    | .ok next => .ok (level.push (.item token) next)

/-- Takes a closed group into the level that waited for it. -/
def Frame.close (frame : Frame) (inner : Pattern) (inGroup : Bool) : Except Refusal Level :=
  match frame.outer.state.step (.group inner) with
  | .error reason =>
    .error (.fault (stepFault frame.outer.state reason inGroup frame.opened))
  | .ok next => .ok (frame.outer.push (.group inner) next)

/-- Reads on from a level with the given levels waiting below it. -/
def readFrom (frames : List Frame) (level : Level) (input : Text) : Except Refusal Pattern :=
  match input, frames with
  | [], [] => .ok level.elements
  | [], _ :: _ =>
    .error (.fault (stepFault level.state (some .unclosedGroup) true []))
  | ')' :: rest, [] => .error (.fault (stepFault level.state none false (')' :: rest)))
  | ')' :: rest, frame :: below =>
    if level.elements = .nil then
      .error (.fault
        { reason := some .emptyGroup, expected := [.slash, .literal], rest := ')' :: rest })
    else
      match frame.close level.elements (!below.isEmpty) with
      | .error refusal => .error refusal
      | .ok outer => readFrom below outer rest
  | '(' :: rest, _ =>
    match level.state.step (.group .nil) with
    | .error reason => .error (.fault (stepFault level.state reason false ('(' :: rest)))
    | .ok _ =>
      readFrom (⟨level, '(' :: rest⟩ :: frames) { state := level.state.enterGroup } rest
  | c :: rest, _ =>
    match _ : scanToken level.state (c :: rest) with
    | .error refusal => .error refusal
    | .ok (token, after) =>
      match level.take token (!frames.isEmpty) (c :: rest) with
      | .error refusal => .error refusal
      | .ok next => readFrom frames next after
termination_by input.length
decreasing_by
  · simp
  · simp
  · exact scanToken_shorter ‹_›

end TypedRoutes.Pattern

namespace TypedRoutes

open TypedRoutes.Pattern

/-- Reads the text of a pattern. The empty text is no pattern. -/
def Pattern.read (text : Text) : Except PatternError Pattern :=
  let result : Except Refusal Pattern :=
    match text with
    | [] => .error (.fault { expected := State.initial.expected false, rest := [] })
    | _ :: _ => readFrom [] {} text
  result.mapError (Refusal.locate text 0 text)

end TypedRoutes
