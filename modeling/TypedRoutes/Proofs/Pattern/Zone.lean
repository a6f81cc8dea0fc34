import TypedRoutes.Pattern.Reading
import TypedRoutes.Proofs.Pattern.Grammar

/-!
Contract: the steps of a state, in two halves.

Where an element may stand depends on the zone of the pattern that has been reached, and on the
token right before it. The zones make a small automaton of their own; what may be side by side is
the same in all of them. A step succeeds if both halves agree to it.

Owns: zones, their automaton, the rule of neighbours, and the two laws that tie them to
`State.step`.
-/

set_option autoImplicit false

namespace TypedRoutes.Pattern

/-- The zones of a pattern. In a query it makes a difference whether a pair has to come next. -/
inductive Zone where
  | path
  | awaiting
  | paired
  | fragment
  | finished
deriving DecidableEq, Repr

namespace Zone

/-- The zone after one more element. -/
@[simp] def after? : Zone → Element Token → Option Zone
  | .path, .group _ => some .path
  | .path, .item .slash | .path, .item (.literal _) | .path, .item (.capture _) => some .path
  | .path, .item .question => some .awaiting
  | .awaiting, .item (.pair _ _) => some .paired
  | .paired, .item .ampersand => some .awaiting
  | .path, .item .hash | .paired, .item .hash => some .fragment
  | .fragment, .group _ => some .fragment
  | .fragment, .item (.literal _) | .fragment, .item (.capture _) => some .fragment
  | .path, .item .stop | .paired, .item .stop | .fragment, .item .stop => some .finished
  | _, _ => none

def hasSlashes : Zone → Bool
  | .path => true
  | _ => false

def isBody : Zone → Bool
  | .path | .fragment => true
  | _ => false

theorem after?_of_isBodyToken {zone : Zone} {token : Token} (body : zone.isBody = true)
    (fits : token.isBodyToken zone.hasSlashes = true) :
    zone.after? (.item token) = some zone := by
  cases zone <;> cases token <;> simp_all [isBody, hasSlashes, Token.isBodyToken]

/-- Groups are opened in bodies only, and do not leave them. -/
theorem after?_group_eq_some_iff {zone next : Zone} {inner : Pattern} :
    zone.after? (.group inner) = some next ↔ zone.isBody = true ∧ next = zone := by
  cases zone <;> simp [isBody, eq_comm]

/-- A token of a body does not leave the zone, which is one of bodies. -/
theorem eq_of_after?_of_isBodyToken {zone next : Zone} {token : Token}
    (follows : zone.after? (.item token) = some next)
    (fits : token.isBodyToken zone.hasSlashes = true) :
    zone.isBody = true ∧ next = zone := by
  cases zone <;> cases token <;>
    simp_all [isBody, hasSlashes, Token.isBodyToken]

theorem isBodyToken_of_after? {zone next : Zone} {token : Token}
    (follows : zone.after? (.item token) = some next) (body : zone.isBody = true)
    (unmarked : token.isPartMark = false) :
    token.isBodyToken zone.hasSlashes = true ∧ next = zone := by
  cases zone <;> cases token <;>
    simp_all [isBody, hasSlashes, Token.isBodyToken, Token.isPartMark]

end Zone

namespace State

/-- The zone that a state is in. -/
def zone (state : State) : Zone :=
  match state.part with
  | .start | .path => .path
  | .firstQuery | .laterQuery => if state.awaitsPair then .awaiting else .paired
  | .fragment => .fragment
  | .finished => .finished

/-- The token right before, with groups opened in place. -/
def last? (state : State) : Option Token :=
  match state.previous with
  | none => none
  | some (.item token) => some token
  | some (.group inner) => inner.last?

/-- Nothing comes before the start. -/
def IsRegular (state : State) : Prop :=
  state.part = .start → state.previous = none

/-- What comes before an element allows for it: no token of a body follows a group, and no two
slashes and no two captures follow each other. -/
def Admits (state : State) : Element Token → Prop
  | .group _ => True
  | .item token =>
    (token.isBodyToken true = true → isGroup state.previous = false) ∧
      ∀ before ∈ state.last?, before.mayFollow token = true

def move (state : State) (element : Element Token) : State where
  previous := element
  part :=
    match element with
    | .item .question => .firstQuery
    | .item .ampersand => .laterQuery
    | .item .hash => .fragment
    | .item .stop => .finished
    | _ => if state.part = .start then .path else state.part

theorem move_isRegular (state : State) (element : Element Token) :
    (state.move element).IsRegular := by
  intro starts
  unfold move at starts
  split at starts
  case h_5 =>
    split at starts
    · contradiction
    · contradiction
  all_goals contradiction

/-- An element that the automaton of zones takes leads to its zone. -/
theorem zone_move {state : State} {element : Element Token} {zone : Zone}
    (follows : state.zone.after? element = some zone) :
    (state.move element).zone = zone := by
  obtain ⟨part, previous⟩ := state
  cases waits : awaitsPair ⟨part, previous⟩
  all_goals
    cases part
    all_goals
      simp only [State.zone, waits] at follows
      cases element with
      | group inner => simp_all [move, State.zone, awaitsPair]
      | item token => cases token <;> simp_all [move, State.zone, awaitsPair]

theorem zone_of_inQuery {state : State} (inQuery : state.inQuery = true) :
    state.zone = if state.awaitsPair then .awaiting else .paired := by
  unfold State.zone
  cases part : state.part <;> simp_all [State.inQuery]

theorem awaits_eq (state : State) :
    (state.inQuery && state.awaitsPair) = decide (state.zone = .awaiting) := by
  unfold State.zone State.inQuery
  cases state.part <;> cases state.awaitsPair <;> rfl

/-! ## Steps -/

theorem stepFromStart_eq_ok_iff {next : State} {element : Element Token} :
    stepFromStart element = .ok next ↔
      (Zone.path.after? element).isSome = true ∧ State.move {} element = next := by
  cases element with
  | group inner => simp [stepFromStart, move]
  | item token => cases token <;> simp [stepFromStart, move]

theorem stepFromPath_eq_ok_iff {previous : Option (Element Token)} {next : State}
    {element : Element Token} :
    stepFromPath previous element = .ok next ↔
      (Zone.path.after? element).isSome = true ∧ Admits ⟨.path, previous⟩ element ∧
        State.move ⟨.path, previous⟩ element = next := by
  cases element with
  | group inner => simp [stepFromPath, move, Admits]
  | item token =>
    rcases previous with _ | before | inner
    · cases token <;>
        simp [stepFromPath, move, Admits, isGroup, last?, Token.mayFollow,
          Token.isBodyToken]
    · cases token <;> cases before <;>
        simp [stepFromPath, move, Admits, isGroup, last?, Token.mayFollow,
          Token.isBodyToken, Token.isCapture]
    · cases token <;>
        simp [stepFromPath, move, Admits, isGroup, Token.mayFollow,
          Token.isBodyToken]

theorem stepFromQuery_eq_ok_iff {state next : State} {element : Element Token}
    (inQuery : state.inQuery = true) :
    stepFromQuery state element = .ok next ↔
      (state.zone.after? element).isSome = true ∧ state.move element = next := by
  have started : state.part ≠ .start := by
    intro starts
    simp [State.inQuery, starts] at inQuery
  rw [zone_of_inQuery inQuery]
  cases waits : state.awaitsPair with
  | false | true =>
    cases element with
    | group inner => simp [stepFromQuery]
    | item token => cases token <;> simp [stepFromQuery, waits, move, started]

theorem stepFromFragment_eq_ok_iff {previous : Option (Element Token)} {next : State}
    {element : Element Token} :
    stepFromFragment previous element = .ok next ↔
      (Zone.fragment.after? element).isSome = true ∧ Admits ⟨.fragment, previous⟩ element ∧
        State.move ⟨.fragment, previous⟩ element = next := by
  cases element with
  | group inner => simp [stepFromFragment, move, Admits]
  | item token =>
    rcases previous with _ | before | inner
    · cases token <;>
        simp [stepFromFragment, move, Admits, isGroup, last?, Token.mayFollow,
          Token.isBodyToken]
    · cases token <;> cases before <;>
        simp [stepFromFragment, move, Admits, isGroup, last?, Token.mayFollow,
          Token.isBodyToken, Token.isCapture]
    · cases token <;>
        simp [stepFromFragment, move, Admits, isGroup, Token.mayFollow,
          Token.isBodyToken]

theorem admits_of_previous_eq_none {state : State} (element : Element Token)
    (alone : state.previous = none) :
    state.Admits element := by
  cases element with
  | group inner => trivial
  | item token => simp [Admits, alone, isGroup, last?]

/-- Inside a query the automaton of zones leaves nothing to the rule of neighbours. -/
theorem admits_of_inQuery {state : State} {element : Element Token} (inQuery : state.inQuery = true)
    (follows : (state.zone.after? element).isSome = true) :
    state.Admits element := by
  have outside : state.zone.isBody = false := by
    rw [zone_of_inQuery inQuery]
    cases state.awaitsPair <;> rfl
  cases element with
  | group inner => trivial
  | item token =>
    cases zone : state.zone <;> cases token <;>
      simp_all [Zone.isBody, Admits, Token.isBodyToken, Token.mayFollow]

/-- A step takes what the automaton of zones and the rule of neighbours allow. -/
theorem step_eq_ok_iff {state next : State} {element : Element Token} (regular : state.IsRegular) :
    state.step element = .ok next ↔
      (state.zone.after? element).isSome = true ∧ state.Admits element ∧
        state.move element = next := by
  obtain ⟨part, previous⟩ := state
  cases part with
  | start =>
    obtain rfl : previous = none := regular rfl
    have admits : State.Admits ⟨.start, none⟩ element := admits_of_previous_eq_none element rfl
    simp only [admits, true_and]
    exact stepFromStart_eq_ok_iff
  | path => exact stepFromPath_eq_ok_iff
  | firstQuery | laterQuery =>
    refine (stepFromQuery_eq_ok_iff rfl).trans (and_congr_right fun follows => ?_)
    simp only [admits_of_inQuery rfl follows, true_and]
  | fragment => exact stepFromFragment_eq_ok_iff
  | finished => simp [step, State.zone]

/-! ## What may stand next -/

/-- Whether an element may stand behind a state. -/
def Takes (state : State) (element : Element Token) : Prop :=
  ∃ next, state.step element = .ok next

theorem takes_iff {state : State} {element : Element Token} (regular : state.IsRegular) :
    state.Takes element ↔ (state.zone.after? element).isSome = true ∧ state.Admits element := by
  constructor
  · rintro ⟨next, stepped⟩
    obtain ⟨follows, admits, _⟩ := (step_eq_ok_iff regular).1 stepped
    exact ⟨follows, admits⟩
  · rintro ⟨follows, admits⟩
    exact ⟨_, (step_eq_ok_iff regular).2 ⟨follows, admits, rfl⟩⟩

theorem takes_group_iff {state : State} (inner : Pattern) (regular : state.IsRegular) :
    state.Takes (.group inner) ↔ state.zone.isBody = true := by
  rw [takes_iff regular, Option.isSome_iff_exists]
  simp only [Zone.after?_group_eq_some_iff, Admits, and_true, exists_and_left, exists_eq]

theorem takes_literal_iff {state : State} (text : Text) (regular : state.IsRegular) :
    state.Takes (.item (.literal text)) ↔
      state.zone.isBody = true ∧ isGroup state.previous = false := by
  rw [takes_iff regular]
  cases state.zone <;>
    simp [Zone.isBody, Admits, Token.isBodyToken, Token.mayFollow]

theorem takes_capture_iff {state : State} (block : Capture) (regular : state.IsRegular) :
    state.Takes (.item (.capture block)) ↔
      state.zone.isBody = true ∧ isGroup state.previous = false ∧
        ∀ before ∈ state.last?, before.isCapture = false := by
  rw [takes_iff regular]
  cases state.zone <;>
    simp [Zone.isBody, Admits, Token.isBodyToken, Token.mayFollow]

theorem takes_pair_iff {state : State} (key : Text) (value : PairValue)
    (regular : state.IsRegular) :
    state.Takes (.item (.pair key value)) ↔ (state.inQuery && state.awaitsPair) = true := by
  rw [takes_iff regular, awaits_eq]
  cases state.zone <;>
    simp [Admits, Token.isBodyToken, Token.mayFollow]

theorem step_isRegular {state next : State} {element : Element Token} (regular : state.IsRegular)
    (stepped : state.step element = .ok next) :
    next.IsRegular := by
  obtain ⟨_, _, rfl⟩ := (step_eq_ok_iff regular).1 stepped
  exact move_isRegular state element

/-! ## The inside of a group -/

theorem enterGroup_isRegular {state : State} (regular : state.IsRegular) :
    state.enterGroup.IsRegular := by
  intro starts
  unfold enterGroup at *
  split at starts
  · rename_i inner before
    have alone := regular starts
    rw [before] at alone
    cases alone
  · exact regular starts

theorem zone_enterGroup {state : State} (body : state.zone.isBody = true) :
    state.enterGroup.zone = state.zone := by
  obtain ⟨part, previous⟩ := state
  cases part with
  | firstQuery | laterQuery =>
    simp only [State.zone] at body
    split at body <;> contradiction
  | _ => rcases previous with _ | before | inner <;> rfl

theorem last?_enterGroup (state : State) : state.enterGroup.last? = state.last? := by
  obtain ⟨part, previous⟩ := state
  rcases previous with _ | before | inner
  · rfl
  · rfl
  · cases ending : inner.last? <;> simp [enterGroup, last?, ending]

theorem isGroup_enterGroup (state : State) : isGroup state.enterGroup.previous = false := by
  obtain ⟨part, previous⟩ := state
  rcases previous with _ | before | inner
  · rfl
  · rfl
  · cases ending : inner.last? <;> simp [enterGroup, isGroup, ending]

end State

end TypedRoutes.Pattern
