import TypedRoutes.Pattern.Lexeme

/-!
Contract: recognizing one token at a place of a text. Each reader returns what it found and the
place after it.

A place before the start counts from the end, and a reader that begins there goes on at the start
when it has read the last character. A piece of text that is cut out between two places is empty if
the later place comes first in the text. Further from the start than the text is long there is
nothing.

Owns: characters, pieces and tokens at places. Does not own: what is left of a text after a token;
the readers of `Lexeme` work on that.
-/

set_option autoImplicit false

namespace TypedRoutes.Pattern

open TypedRoutes.Text TypedRoutes.Number

inductive PlaceError where
  /-- The place is not in the text. -/
  | outside
  | refused (error : PatternError)
deriving DecidableEq, Repr

/-- The number of characters before a place in the text; there are none before the start and no more
than there are. -/
def charactersBefore (text : Text) (place : Int) : Nat :=
  if place < 0 then (text.length + place).toNat else min place.toNat text.length

def characterAt (text : Text) (place : Int) : Except PlaceError Char :=
  let character :=
    if 0 ≤ place then text[place.toNat]?
    else if place.natAbs ≤ text.length then text[text.length - place.natAbs]?
    else none
  match character with
  | some c => .ok c
  | none => .error .outside

def startsAt (sought text : Text) (place : Int) : Bool :=
  sought.isPrefixOf (text.drop (charactersBefore text place))

def pieceOf (text : Text) (first last : Int) : Text :=
  (text.take (charactersBefore text last)).drop (charactersBefore text first)

/-- A refusal at a place, for a given reason and about a given character if there are such. -/
def refuse {α : Type} (text : Text) (place : Int) (expected : List Kind) (reason : Option Reason)
    (badChar : Option Char) :
    Except PlaceError α :=
  .error
    (.refused
      (.malformed
        { reason
          expected := Kind.ordered expected
          offset := place
          pattern := text
          badChar := badChar.map ([·]) }))

def refuseAt {α : Type} (text : Text) (place : Int) (expected : List Kind) : Except PlaceError α :=
  refuse text place expected none none

/-- The first place, from a given one on, with a character that does not pass, or the end. -/
def skipWhile (passes : Char → Bool) (text : Text) (place : Int) : Except PlaceError Int :=
  if place < text.length then
    match characterAt text place with
    | .error error => .error error
    | .ok c => if passes c then skipWhile passes text (place + 1) else .ok place
  else .ok place
termination_by (text.length - place).toNat

/-- Whether a doubled brace stands at a place, where the character is known. -/
def isEscapeOf (c : Char) (text : Text) (place : Int) : Bool :=
  (c = '{' || c = '}') && startsAt [c, c] text place

def escapeAt (text : Text) (place : Int) : Except PlaceError Bool :=
  (characterAt text place).map fun c => isEscapeOf c text place

/-- The literal at a place. It is empty when a reserved character stands there. -/
def literalAt (text : Text) (place : Int) : Except PlaceError (Text × Int) :=
  if place < text.length then
    match characterAt text place with
    | .error error => .error error
    | .ok c =>
      if isEscapeOf c text place then
        (literalAt text (place + 2)).map fun (literal, after) => (c :: literal, after)
      else if isReserved c then .ok ([], place)
      else (literalAt text (place + 1)).map fun (literal, after) => (c :: literal, after)
  else .ok ([], place)
termination_by (text.length - place).toNat

def nameAt (text : Text) (place : Int) : Except PlaceError (Text × Int) := do
  let after ← skipWhile isNameChar text place
  let name := pieceOf text place after
  match nameFault? name [] with
  | none => return (name, after)
  | some fault =>
    refuse text (place + (name.length - fault.rest.length : Nat)) fault.expected fault.reason
      fault.badChar

/-- The allowed texts from a place behind their opening bracket on. `values` are complete, and the
one being read began at `start`. -/
def allowedAt (text : Text) (values : List Text) (start place : Int) :
    Except PlaceError (List Text × Int) :=
  if place < text.length then
    match characterAt text place with
    | .error error => .error error
    | .ok c =>
      if c = ')' ∧ start < place then .ok (values ++ [pieceOf text start place], place + 1)
      else if c = '{' ∨ c = '}' ∨ c = '(' ∨ c = ')' then
        refuseAt text place [.literal, .groupClose]
      else if c = '|' then
        if place = start then refuseAt text place [.literal]
        else allowedAt text (values ++ [pieceOf text start place]) (place + 1) (place + 1)
      else allowedAt text values start (place + 1)
  else refuseAt text place [.literal, .groupClose]
termination_by (text.length - place).toNat

def closeAt (text : Text) (place : Int) : Except PlaceError Int :=
  if startsAt ['}'] text place then .ok (place + 1) else refuseAt text place [.captureClose]

def colonNameAt (text : Text) (place : Int) : Except PlaceError (Option Text × Int) :=
  if startsAt [':'] text place then
    (nameAt text (place + 1)).map fun (name, after) => (some name, after)
  else .ok (none, place)

def segmentsAt (text : Text) (place : Int) : Except PlaceError (Int × Int) := do
  let after ← skipWhile isDigit text place
  let runsOn ←
    if after < text.length then
      (characterAt text after).map fun c => isLetter c || c = '_'
    else pure false
  if runsOn then
    let first ← characterAt text place
    refuse text place [.identifier] (some .badIdentifier) (some first)
  else
    match readInteger 10 (pieceOf text place after) with
    | .error error => .error (.refused (.number error))
    | .ok 0 => refuse text place [.numberedCapture] (some .zeroSegments) none
    | .ok segments => return (segments, after)

/-- The capture whose opening brace is at a place; the brace itself is not looked at. -/
def captureAt (text : Text) (place : Int) : Except PlaceError (Capture × Int) := do
  let inside := place + 1
  if text.length ≤ inside then refuseAt text inside [.identifier, .captureClose]
  else
    let first ← characterAt text inside
    if first = '*' then
      let (name, afterName) ← colonNameAt text (inside + 1)
      return ({ extent := .many, name }, ← closeAt text afterName)
    else if isDigit first then
      let (segments, afterNumber) ← segmentsAt text inside
      let (name, afterName) ← colonNameAt text afterNumber
      return ({ extent := .exactly segments, name }, ← closeAt text afterName)
    else
      let (name, afterName) ←
        if isNameChar first then
          (nameAt text inside).map fun (name, after) => (some name, after)
        else pure (none, inside)
      let (allowed, afterAllowed) ←
        if startsAt ['('] text afterName then
          (allowedAt text [] (afterName + 1) (afterName + 1)).map fun (allowed, after) =>
            (some allowed, after)
        else pure (none, afterName)
      return ({ extent := .one, name, allowed }, ← closeAt text afterAllowed)

def pairAt (text : Text) (place : Int) : Except PlaceError (Token × Int) := do
  let (key, afterKey) ← literalAt text place
  if key.isEmpty || !startsAt ['='] text afterKey then refuseAt text afterKey pairKinds
  else
    let value := afterKey + 1
    let isCapture ←
      if startsAt ['{'] text value then (escapeAt text value).map (!·) else pure false
    if isCapture then
      let (block, after) ← captureAt text value
      if block.extent = .one then return (.pair key (.capture block), after)
      else refuseAt text value [.capture]
    else
      let (literal, after) ← literalAt text value
      if literal.isEmpty then refuseAt text after [.literal, .capture]
      else return (.pair key (.literal literal), after)

end TypedRoutes.Pattern
