import TypedRoutes.Pattern.Fault
import TypedRoutes.Pattern.Token

/-!
Contract: which token may follow which.

A pattern has a path, then optionally a query, a fragment and a stop, in this order. The state
between two elements is the part that has been reached and the element before; a step takes one
element and gives the next state, or the reason why the element cannot stand there.

Owns: the state, the step, and the kinds of text that a state would accept.
-/

set_option autoImplicit false

namespace TypedRoutes.Pattern

inductive Part where
  | start
  | path
  | firstQuery
  | laterQuery
  | fragment
  | finished
deriving DecidableEq, Repr

/-- What has been reached: the part and the element before. -/
structure State where
  part : Part := .start
  previous : Option (Element Token) := none
deriving DecidableEq, Repr

def State.initial : State := {}

def isGroup : Option (Element Token) → Bool
  | some (.group _) => true
  | _ => false

def State.awaitsPair (state : State) : Bool :=
  match state.previous with
  | some (.item .question) => true
  | some (.item .ampersand) => true
  | _ => false

def State.inQuery (state : State) : Bool :=
  state.part = .firstQuery || state.part = .laterQuery

def stepFromStart (element : Element Token) : Except (Option Reason) State :=
  match element with
  | .item .slash | .item (.literal _) | .item (.capture _) | .group _ => .ok ⟨.path, element⟩
  | .item .question => .ok ⟨.firstQuery, element⟩
  | .item .ampersand => .error (some .ampersandBeforeQuestion)
  | .item .hash => .ok ⟨.fragment, element⟩
  | .item .stop => .ok ⟨.finished, element⟩
  | .item (.pair _ _) | .item (.fixed _) => .error (some .impossibleToken)

def stepFromPath (previous : Option (Element Token)) (element : Element Token) :
    Except (Option Reason) State :=
  match element with
  | .item .question => .ok ⟨.firstQuery, element⟩
  | .item .ampersand => .error (some .ampersandBeforeQuestion)
  | .item .hash => .ok ⟨.fragment, element⟩
  | .item .stop => .ok ⟨.finished, element⟩
  | .group _ => .ok ⟨.path, element⟩
  | .item (.pair _ _) => .error (some .impossibleToken)
  | .item token =>
    if isGroup previous then .error (some .concreteAfterGroup)
    else
      match previous, token with
      | some (.item .slash), .slash => .error (some .doubleSlash)
      | some (.item (.capture _)), .capture _ => .error (some .adjacentCaptures)
      | _, .fixed _ => .error (some .unknownState)
      | _, _ => .ok ⟨.path, element⟩

def stepFromQuery (state : State) (element : Element Token) : Except (Option Reason) State :=
  match element, state.awaitsPair with
  | .item .question, _ => .error (some .secondQuestion)
  | .item (.pair _ _), true => .ok ⟨state.part, element⟩
  | .item .ampersand, false => .ok ⟨.laterQuery, element⟩
  | .item .hash, false => .ok ⟨.fragment, element⟩
  | .item .stop, false => .ok ⟨.finished, element⟩
  | _, _ => .error none

def stepFromFragment (previous : Option (Element Token)) (element : Element Token) :
    Except (Option Reason) State :=
  match element with
  | .item .stop => .ok ⟨.finished, element⟩
  | .group _ => .ok ⟨.fragment, element⟩
  | .item (.literal _) =>
    if isGroup previous then .error (some .concreteAfterGroup) else .ok ⟨.fragment, element⟩
  | .item (.capture _) =>
    match previous with
    | some (.group _) => .error (some .concreteAfterGroup)
    | some (.item (.capture _)) => .error (some .adjacentCaptures)
    | _ => .ok ⟨.fragment, element⟩
  | _ => .error none

/-- The state after one more element, or why it cannot stand there. -/
def State.step (state : State) (element : Element Token) : Except (Option Reason) State :=
  match state.part with
  | .start => stepFromStart element
  | .path => stepFromPath state.previous element
  | .firstQuery | .laterQuery => stepFromQuery state element
  | .fragment => stepFromFragment state.previous element
  | .finished => .error (some .tokensAfterStop)

/-- What may end the path, or interrupt it by a group. -/
def pathTail : List Kind := [.groupOpen, .question, .hash, .stop]

/-- The kinds accepted next, outside of groups. -/
def State.accepted (state : State) : List Kind :=
  match state.part with
  | .start => [.slash, .literal] ++ captureKinds ++ pathTail
  | .path =>
    match state.previous with
    | some (.group _) => pathTail
    | some (.item .slash) => [.literal] ++ captureKinds ++ pathTail
    | some (.item (.capture _)) => [.slash, .literal] ++ pathTail
    | _ => [.slash] ++ captureKinds ++ pathTail
  | .firstQuery | .laterQuery =>
    if state.awaitsPair then pairKinds else [.ampersand, .hash, .stop]
  | .fragment =>
    match state.previous with
    | some (.group _) => [.groupOpen, .stop]
    | some (.item (.capture _)) => [.literal, .groupOpen, .stop]
    | some (.item (.literal _)) => captureKinds ++ [.groupOpen, .stop]
    | _ => [.literal] ++ captureKinds ++ [.groupOpen, .stop]
  | .finished => []

def partMarks : List Kind := [.question, .ampersand, .hash, .stop]

/-- The kinds a state accepts next, in listing order. Inside a group no mark of a new part is
accepted, but the end of the group is. -/
def State.expected (state : State) (inGroup : Bool) : List Kind :=
  if inGroup then
    Kind.ordered (.groupClose :: state.accepted.filter fun kind => !partMarks.contains kind)
  else Kind.ordered state.accepted

/-- The state in which the inside of a group begins: after a group, the token at the end of that
group counts as the one before. -/
def State.enterGroup (state : State) : State :=
  match state.previous with
  | some (.group inner) => { state with previous := inner.last?.map .item }
  | _ => state

def State.steps (state : State) : List (Element Token) → Except (Option Reason) State
  | [] => .ok state
  | element :: rest =>
    match state.step element with
    | .error reason => .error reason
    | .ok next => next.steps rest

end TypedRoutes.Pattern
