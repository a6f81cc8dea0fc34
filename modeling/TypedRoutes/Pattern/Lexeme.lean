import TypedRoutes.Pattern.Fault
import TypedRoutes.Pattern.Succession
import TypedRoutes.Pattern.Token
import TypedRoutes.Text.Identifier

/-!
Contract: recognizing one token at the start of a text.

Each reader takes the text that is left and returns what it recognized with the text left after it,
or a fault that carries the text at its place. Readers only recognize; whether the token may stand
where it was found is decided by `State.step`.

Owns: literals with doubled braces, captures, query pairs and single tokens.
Does not own: groups and whole patterns.
-/

set_option autoImplicit false

namespace TypedRoutes.Pattern

open TypedRoutes.Text TypedRoutes.Number

def isReserved (c : Char) : Bool :=
  ['/', '?', '&', '#', '=', '{', '}', '!', '(', ')'].contains c

/-- Characters that are a token of their own and begin a part of the pattern or end it. -/
def isPartMark (c : Char) : Bool :=
  ['?', '&', '#', '!'].contains c

def unexpected {α : Type} (kinds : List Kind) (rest : Text) : Except Refusal α :=
  .error (.fault { expected := Kind.ordered kinds, rest })

/-- A literal up to the first reserved character, and what follows. A doubled brace stands for one
brace. The literal is empty when a reserved character comes first. -/
def scanLiteral : Text → Text × Text
  | '{' :: '{' :: rest =>
    let (literal, after) := scanLiteral rest
    ('{' :: literal, after)
  | '}' :: '}' :: rest =>
    let (literal, after) := scanLiteral rest
    ('}' :: literal, after)
  | c :: rest =>
    if isReserved c then ([], c :: rest)
    else
      let (literal, after) := scanLiteral rest
      (c :: literal, after)
  | [] => ([], [])

/-- Whether a capture comes first: an opening brace that is not doubled. -/
def startsWithCapture : Text → Bool
  | '{' :: '{' :: _ => false
  | '{' :: _ => true
  | _ => false

def identifierFault (badChar : Char) (rest : Text) : Fault where
  reason := some .badIdentifier
  expected := [.identifier]
  rest := badChar :: rest
  badChar := some badChar

/-- The fault of a name that is no identifier, at its first bad character. -/
def nameFault? (name rest : Text) : Option Fault :=
  match name with
  | [] => some { expected := [.identifier], rest }
  | first :: more =>
    if startsIdentifier first then
      match more.dropWhile continuesIdentifier with
      | [] => none
      | bad :: after => some (identifierFault bad (after ++ rest))
    else some (identifierFault first (more ++ rest))

/-- Characters of a name; it ends before a closing brace or a list of allowed texts. -/
def isNameChar (c : Char) : Bool :=
  c ≠ '}' && c ≠ '('

def scanName (input : Text) : Except Refusal (Text × Text) :=
  let name := input.takeWhile isNameChar
  let rest := input.dropWhile isNameChar
  match nameFault? name rest with
  | some fault => .error (.fault fault)
  | none => .ok (name, rest)

/-- The allowed texts after their opening bracket, and what follows the closing one. `values` are
complete, `current` is being read. -/
def scanAllowed (values : List Text) (current : Text) : Text → Except Refusal (List Text × Text)
  | [] => unexpected [.literal, .groupClose] []
  | c :: rest =>
    if c = ')' ∧ current ≠ [] then .ok (values ++ [current], rest)
    else if c = '{' ∨ c = '}' ∨ c = '(' ∨ c = ')' then
      unexpected [.literal, .groupClose] (c :: rest)
    else if c = '|' then
      if current = [] then unexpected [.literal] (c :: rest)
      else scanAllowed (values ++ [current]) [] rest
    else scanAllowed values (current ++ [c]) rest

def closeCapture : Text → Except Refusal Text
  | '}' :: rest => .ok rest
  | rest => unexpected [.captureClose] rest

def scanColonName : Text → Except Refusal (Option Text × Text)
  | ':' :: rest => do
    let (name, after) ← scanName rest
    return (some name, after)
  | rest => .ok (none, rest)

def scanOptionalAllowed : Text → Except Refusal (Option (List Text) × Text)
  | '(' :: rest => do
    let (allowed, after) ← scanAllowed [] [] rest
    return (some allowed, after)
  | rest => .ok (none, rest)

def scanSegments (body : Text) : Except Refusal (Int × Text) :=
  let digits := body.takeWhile isDigit
  let rest := body.dropWhile isDigit
  let runsOn :=
    match rest with
    | [] => false
    | c :: _ => isLetter c || c = '_'
  match body, runsOn with
  | first :: more, true => .error (.fault (identifierFault first more))
  | _, _ =>
    match readInteger 10 digits with
    | .error error => .error (.number error)
    | .ok 0 =>
      .error (.fault
        { reason := some .zeroSegments, expected := [.numberedCapture], rest := body })
    | .ok segments => .ok (segments, rest)

def scanCaptureBody (body : Text) : Except Refusal (Capture × Text) :=
  match body with
  | [] => unexpected [.identifier, .captureClose] []
  | first :: rest =>
    if first = '*' then do
      let (name, afterName) ← scanColonName rest
      let after ← closeCapture afterName
      return ({ extent := .many, name }, after)
    else if isDigit first then do
      let (segments, afterNumber) ← scanSegments body
      let (name, afterName) ← scanColonName afterNumber
      let after ← closeCapture afterName
      return ({ extent := .exactly segments, name }, after)
    else if isNameChar first then do
      let (name, afterName) ← scanName body
      let (allowed, afterAllowed) ← scanOptionalAllowed afterName
      let after ← closeCapture afterAllowed
      return ({ extent := .one, name := some name, allowed }, after)
    else do
      let (allowed, afterAllowed) ← scanOptionalAllowed body
      let after ← closeCapture afterAllowed
      return ({ extent := .one, name := none, allowed }, after)

/-- A query pair, and what follows. Its value is a capture of one segment or a nonempty literal. -/
def scanPair (input : Text) : Except Refusal (Token × Text) :=
  let (key, rest) := scanLiteral input
  match rest with
  | '=' :: value =>
    if key = [] then unexpected pairKinds rest
    else if startsWithCapture value then do
      let (block, after) ← scanCaptureBody value.tail
      if block.extent = .one then return (.pair key (.capture block), after)
      else unexpected [.capture] value
    else
      let (literal, after) := scanLiteral value
      if literal = [] then unexpected [.literal, .capture] after
      else .ok (.pair key (.literal literal), after)
  | _ => unexpected pairKinds rest

/-- The token at the start of a text in a given state, and what follows. After a mark of the query
everything but another mark begins a query pair. -/
def scanToken (state : State) (input : Text) : Except Refusal (Token × Text) :=
  match input with
  | [] => .error (.fault { expected := state.expected false, rest := [] })
  | c :: rest =>
    if (state.inQuery && state.awaitsPair && !isPartMark c) = true then scanPair input
    else if c = '?' then .ok (.question, rest)
    else if c = '&' then .ok (.ampersand, rest)
    else if c = '#' then .ok (.hash, rest)
    else if c = '!' then .ok (.stop, rest)
    else if c = '/' then .ok (.slash, rest)
    else if startsWithCapture input then do
      let (block, after) ← scanCaptureBody rest
      return (.capture block, after)
    else
      let (literal, after) := scanLiteral input
      if literal = [] then .error (.fault { expected := state.expected false, rest := input })
      else .ok (.literal literal, after)

end TypedRoutes.Pattern
