import TypedRoutes.Proofs.Pattern.Recognized
import TypedRoutes.Proofs.Pattern.Zone

/-!
Contract: what a state lists as expected, compared with what it takes.

The list of a state comes in the same two halves as its steps: the zone says which kinds can come at
all, and the element right before leaves some of them out. The zones give the same answer for
elements and for their kinds. What is left out differs in one case: a literal right behind a literal
is taken but not listed. Readers of tokens never find one.

The halves make up the list where the element before belongs to the part, which is so in just those
states that elements lead to from the start.

Owns: the kinds of elements, the states that are reached from the start, and the agreement of lists
and steps there. Does not own: what is offered inside of groups.
-/

set_option autoImplicit false

namespace TypedRoutes.Pattern

open TypedRoutes.Text

/-! ## Kinds of elements -/

def Capture.kind (capture : Capture) : Kind :=
  match capture.extent with
  | .one => .capture
  | .many => .manyCapture
  | .exactly _ => .numberedCapture

def Token.kind? : Token → Option Kind
  | .slash => some .slash
  | .literal _ => some .literal
  | .capture block => some block.kind
  | .question => some .question
  | .ampersand => some .ampersand
  | .pair _ (.capture _) => some .capturePair
  | .pair _ (.literal _) => some .literalPair
  | .hash => some .hash
  | .stop => some .stop
  | .fixed _ => none

def kindOf? : Element Token → Option Kind
  | .item token => token.kind?
  | .group _ => some .groupOpen

theorem Capture.kind_mem (capture : Capture) : capture.kind ∈ captureKinds := by
  unfold kind
  split <;> decide

/-- Whether a token is a literal of the path or the fragment. -/
def Token.isLiteral : Token → Bool
  | .literal _ => true
  | _ => false

theorem Token.isLiteral_iff {token : Token} :
    token.isLiteral = true ↔ ∃ text, token = .literal text := by
  cases token <;> simp [isLiteral]

def bodyKinds : List Kind := [.slash, .literal] ++ captureKinds

section Kinds

variable {token : Token}

theorem Token.kind?_eq_slash_iff : token.kind? = some .slash ↔ token = .slash := by
  cases token with
  | capture block => obtain ⟨_ | _ | _, _, _⟩ := block <;> simp [kind?, Capture.kind]
  | pair key value => cases value <;> simp [kind?]
  | _ => simp [kind?]

theorem Token.kind?_eq_literal_iff :
    token.kind? = some .literal ↔ token.isLiteral = true := by
  cases token with
  | capture block => obtain ⟨_ | _ | _, _, _⟩ := block <;> simp [kind?, Capture.kind, isLiteral]
  | pair key value => cases value <;> simp [kind?, isLiteral]
  | _ => simp [kind?, isLiteral]

theorem Token.exists_captureKind_iff :
    (∃ kind ∈ captureKinds, token.kind? = some kind) ↔ token.isCapture = true := by
  cases token with
  | capture block => exact iff_of_true ⟨block.kind, block.kind_mem, rfl⟩ rfl
  | pair key value => cases value <;> simp [kind?, isCapture, captureKinds]
  | _ => simp [kind?, isCapture, captureKinds]

theorem Token.exists_bodyKind_iff :
    (∃ kind ∈ bodyKinds, token.kind? = some kind) ↔ token.isBodyToken true = true := by
  simp only [bodyKinds, List.mem_append, or_and_right, exists_or, exists_captureKind_iff]
  simp only [List.mem_cons, List.not_mem_nil, or_false, exists_eq_or_imp, exists_eq_left,
    kind?_eq_slash_iff, kind?_eq_literal_iff]
  cases token <;> simp [isBodyToken, isLiteral, isCapture]

end Kinds

/-! ## The half of the zones -/

/-- The kinds that can come in a zone, whatever comes right before. -/
def Zone.kinds : Zone → List Kind
  | .path => bodyKinds ++ pathTail
  | .awaiting => pairKinds
  | .paired => [.ampersand, .hash, .stop]
  | .fragment => [.literal] ++ captureKinds ++ [.groupOpen, .stop]
  | .finished => []

/-- The automaton of zones takes an element by its kind. -/
theorem Zone.isSome_after?_iff {zone : Zone} {element : Element Token} :
    (zone.after? element).isSome = true ↔ ∃ kind ∈ kindOf? element, kind ∈ zone.kinds := by
  cases element with
  | group inner =>
    cases zone <;> simp [kindOf?, kinds, bodyKinds, captureKinds, pathTail, pairKinds]
  | item token =>
    cases token with
    | capture block =>
      obtain ⟨_ | _ | _, _, _⟩ := block <;> cases zone <;>
        simp [kindOf?, Token.kind?, Capture.kind, kinds, bodyKinds, captureKinds, pathTail,
          pairKinds]
    | pair key value =>
      cases zone <;> cases value <;>
        simp [kindOf?, Token.kind?, kinds, bodyKinds, captureKinds, pathTail, pairKinds]
    | _ =>
      cases zone <;>
        simp [kindOf?, Token.kind?, kinds, bodyKinds, captureKinds, pathTail, pairKinds]

theorem Zone.exists_kindOf?_of_mem {zone : Zone} {kind : Kind} (comes : kind ∈ zone.kinds) :
    ∃ element, kindOf? element = some kind := by
  let block (extent : Extent) : Capture := { extent, name := none }
  cases kind with
  | slash => exact ⟨.item .slash, rfl⟩
  | literal => exact ⟨.item (.literal []), rfl⟩
  | capture => exact ⟨.item (.capture (block .one)), rfl⟩
  | numberedCapture => exact ⟨.item (.capture (block (.exactly 1))), rfl⟩
  | manyCapture => exact ⟨.item (.capture (block .many)), rfl⟩
  | question => exact ⟨.item .question, rfl⟩
  | ampersand => exact ⟨.item .ampersand, rfl⟩
  | capturePair => exact ⟨.item (.pair [] (.capture (block .one))), rfl⟩
  | literalPair => exact ⟨.item (.pair [] (.literal [])), rfl⟩
  | hash => exact ⟨.item .hash, rfl⟩
  | stop => exact ⟨.item .stop, rfl⟩
  | groupOpen => exact ⟨.group .nil, rfl⟩
  | groupClose | captureClose | identifier =>
    cases zone <;> simp [kinds, bodyKinds, captureKinds, pathTail, pairKinds] at comes

/-! ## The half of the neighbours -/

/-- The kinds that are left out behind an element: those of bodies behind a group, and its own kind
behind a token of a body. -/
def leftOutBehind : Option (Element Token) → List Kind
  | some (.group _) => bodyKinds
  | some (.item .slash) => [.slash]
  | some (.item (.literal _)) => [.literal]
  | some (.item (.capture _)) => captureKinds
  | _ => []

/-- The rule of neighbours leaves out the same kinds, but keeps a literal behind a literal. -/
theorem Token.mayFollow_iff {before token : Token} :
    before.mayFollow token = true ↔
      (¬ ∃ kind ∈ leftOutBehind (some (.item before)), token.kind? = some kind) ∨
        (before.isLiteral && token.isLiteral) = true := by
  cases before with
  | slash =>
    simp only [leftOutBehind, List.mem_singleton, exists_eq_left, kind?_eq_slash_iff]
    cases token <;> simp [mayFollow, isCapture, isLiteral]
  | literal text =>
    simp only [leftOutBehind, List.mem_singleton, exists_eq_left, kind?_eq_literal_iff]
    cases token <;> simp [mayFollow, isCapture, isLiteral]
  | capture block =>
    simp only [leftOutBehind, exists_captureKind_iff]
    cases token <;> simp [mayFollow, isCapture, isLiteral]
  | _ => cases token <;> simp [mayFollow, isCapture, leftOutBehind]

namespace State

def repeatsLiteral (state : State) (element : Element Token) : Bool :=
  match state.previous, element with
  | some (.item before), .item token => before.isLiteral && token.isLiteral
  | _, _ => false

theorem admits_iff {state : State} {element : Element Token} :
    state.Admits element ↔
      (¬ ∃ kind ∈ leftOutBehind state.previous, kindOf? element = some kind) ∨
        state.repeatsLiteral element = true := by
  obtain ⟨part, previous⟩ := state
  cases element with
  | group inner =>
    refine iff_of_true trivial (.inl ?_)
    rintro ⟨kind, leftOut, named⟩
    obtain rfl := Option.some.inj named
    revert leftOut
    unfold leftOutBehind
    split <;> decide
  | item token =>
    rcases previous with _ | before | inner
    · simp [Admits, isGroup, last?, leftOutBehind]
    · simp only [Admits, isGroup, last?, implies_true, true_and, Option.mem_some_iff, forall_eq']
      exact Token.mayFollow_iff
    · -- What the token at the end of a group parts from itself cannot come behind the group anyway.
      simp only [Admits, isGroup, last?, leftOutBehind, kindOf?, repeatsLiteral,
        Token.exists_bodyKind_iff]
      cases token <;> simp [Token.mayFollow, Token.isBodyToken]

/-! ## The states that are reached -/

/-- Whether the element before a state is one that its part can have last. -/
def isConsistent (state : State) : Bool :=
  match state.part, state.previous with
  | .start, none => true
  | .path, some (.group _) | .fragment, some (.group _) => true
  | .path, some (.item token) => token.isBodyToken true
  | .firstQuery, some (.item .question) | .laterQuery, some (.item .ampersand) => true
  | .firstQuery, some (.item (.pair _ _)) | .laterQuery, some (.item (.pair _ _)) => true
  | .fragment, some (.item token) => token = .hash || token.isBodyToken false
  | .finished, some (.item .stop) => true
  | _, _ => false

theorem isRegular_of_isConsistent {state : State} (consistent : state.isConsistent = true) :
    state.IsRegular := by
  obtain ⟨part, previous⟩ := state
  rintro rfl
  cases previous with
  | none => rfl
  | some element => cases consistent

theorem isConsistent_of_step {state next : State} {element : Element Token}
    (regular : state.IsRegular) (stepped : state.step element = .ok next) :
    next.isConsistent = true := by
  obtain ⟨follows, _, rfl⟩ := (step_eq_ok_iff regular).1 stepped
  obtain ⟨part, previous⟩ := state
  cases element with
  | group inner =>
    cases waits : awaitsPair ⟨part, previous⟩ <;> cases part <;>
      simp_all [State.zone, move, isConsistent]
  | item token =>
    cases token with
    -- The mark of a part begins it; all other tokens stay in the part that they are found in.
    | question | ampersand | hash | stop => rfl
    | _ =>
      cases waits : awaitsPair ⟨part, previous⟩ <;> cases part <;>
        simp_all [State.zone, move, isConsistent, Token.isBodyToken]

theorem isConsistent_of_steps {elements : List (Element Token)} {state final : State}
    (consistent : state.isConsistent = true) (stepped : state.steps elements = .ok final) :
    final.isConsistent = true := by
  induction elements generalizing state with
  | nil =>
    obtain rfl := Except.ok.inj stepped
    exact consistent
  | cons element rest inductionHypothesis =>
    unfold steps at stepped
    cases taken : state.step element with
    | error reason =>
      rw [taken] at stepped
      cases stepped
    | ok next =>
      rw [taken] at stepped
      have regular := isRegular_of_isConsistent consistent
      exact inductionHypothesis (isConsistent_of_step regular taken) stepped

/-- The states that elements lead to from the start are the consistent ones. -/
theorem exists_steps_iff {state : State} :
    (∃ elements, State.initial.steps elements = .ok state) ↔ state.isConsistent = true := by
  constructor
  · rintro ⟨elements, stepped⟩
    exact isConsistent_of_steps rfl stepped
  · intro consistent
    obtain ⟨part, previous⟩ := state
    rcases previous with _ | token | inner
    · cases part with
      | start => exact ⟨[], rfl⟩
      | _ => cases consistent
    · cases part with
      | start => cases consistent
      | path =>
        cases token with
        | slash => exact ⟨[.item .slash], rfl⟩
        | literal text => exact ⟨[.item (.literal text)], rfl⟩
        | capture block => exact ⟨[.item (.capture block)], rfl⟩
        | _ => cases consistent
      | firstQuery =>
        cases token with
        | question => exact ⟨[.item .question], rfl⟩
        | pair key value => exact ⟨[.item .question, .item (.pair key value)], rfl⟩
        | _ => cases consistent
      | laterQuery =>
        let query : List (Element Token) :=
          [.item .question, .item (.pair [] (.literal [])), .item .ampersand]
        cases token with
        | ampersand => exact ⟨query, rfl⟩
        | pair key value => exact ⟨query ++ [.item (.pair key value)], rfl⟩
        | _ => cases consistent
      | fragment =>
        cases token with
        | hash => exact ⟨[.item .hash], rfl⟩
        | literal text => exact ⟨[.item .hash, .item (.literal text)], rfl⟩
        | capture block => exact ⟨[.item .hash, .item (.capture block)], rfl⟩
        | _ => cases consistent
      | finished =>
        cases token with
        | stop => exact ⟨[.item .stop], rfl⟩
        | _ => cases consistent
    · cases part with
      | path => exact ⟨[.group inner], rfl⟩
      | fragment => exact ⟨[.item .hash, .group inner], rfl⟩
      | _ => cases consistent

/-! ## The agreement -/

/-- Whether a state lists the kind of an element, outside of groups. -/
def Lists (state : State) (element : Element Token) : Prop :=
  ∃ kind ∈ kindOf? element, kind ∈ state.expected false

/-- What a consistent state accepts is what can come in its zone, without what is left out behind
the element before. -/
theorem accepted_eq_filter {state : State} (consistent : state.isConsistent = true) :
    state.accepted =
      state.zone.kinds.filter fun kind => !(leftOutBehind state.previous).contains kind := by
  obtain ⟨part, previous⟩ := state
  -- Either the part cannot have the element last, or both sides compute to one list.
  rcases previous with _ | token | inner
  · cases part <;> first | rfl | cases consistent
  · cases part <;> cases token <;> first | rfl | cases consistent
  · cases part <;> first | rfl | cases consistent

/-- A path with nothing before it, which no elements lead to, takes a literal that it does not
list. -/
example :
    State.step ⟨.path, none⟩ (.item (.literal ['a'])) =
        .ok ⟨.path, some (.item (.literal ['a']))⟩ ∧
      .literal ∉ State.expected ⟨.path, none⟩ false := by
  decide

theorem lists_iff {state : State} {element : Element Token}
    (consistent : state.isConsistent = true) :
    state.Lists element ↔
      ∃ kind ∈ kindOf? element, kind ∈ state.zone.kinds ∧ kind ∉ leftOutBehind state.previous := by
  unfold Lists expected
  simp only [Bool.false_eq_true, if_false, Kind.mem_ordered, accepted_eq_filter consistent,
    List.mem_filter, Bool.not_eq_true', List.contains_eq_mem, decide_eq_false_iff_not]

/-- A step takes the kinds of the zone that are not left out, and literals behind literals. -/
theorem takes_iff_kind {state : State} {element : Element Token} (regular : state.IsRegular) :
    state.Takes element ↔
      ∃ kind ∈ kindOf? element, kind ∈ state.zone.kinds ∧
        (kind ∉ leftOutBehind state.previous ∨ state.repeatsLiteral element = true) := by
  rw [takes_iff regular, Zone.isSome_after?_iff, admits_iff]
  cases kindOf? element with
  | none => simp
  | some kind => simp

theorem repeatsLiteral_iff {state : State} {element : Element Token} :
    state.repeatsLiteral element = true ↔
      (∃ text, state.previous = some (.item (.literal text))) ∧
        ∃ text, element = .item (.literal text) := by
  obtain ⟨part, previous⟩ := state
  rcases previous with _ | before | inner <;> cases element <;>
    simp [repeatsLiteral, Token.isLiteral_iff]

/-- A literal behind a literal is of a kind that is left out there. -/
theorem leftOut_of_repeatsLiteral {state : State} {element : Element Token} {kind : Kind}
    (named : kindOf? element = some kind) (repeats : state.repeatsLiteral element = true) :
    kind ∈ leftOutBehind state.previous := by
  obtain ⟨⟨before, behind⟩, text, rfl⟩ := repeatsLiteral_iff.1 repeats
  obtain rfl : Kind.literal = kind := Option.some.inj named
  rw [behind]
  exact List.mem_singleton_self _

theorem takes_of_repeatsLiteral {state : State} {element : Element Token}
    (consistent : state.isConsistent = true) (repeats : state.repeatsLiteral element = true) :
    state.Takes element := by
  obtain ⟨⟨before, behind⟩, text, rfl⟩ := repeatsLiteral_iff.1 repeats
  refine (takes_literal_iff text (isRegular_of_isConsistent consistent)).2 ⟨?_, ?_⟩
  · obtain ⟨part, previous⟩ := state
    obtain rfl : previous = some (.item (.literal before)) := behind
    cases part with
    | path | fragment => rfl
    | _ => cases consistent
  · rw [behind]
    rfl

/-- A consistent state lists what it takes, apart from literals behind literals. -/
theorem lists_iff_takes {state : State} {element : Element Token}
    (consistent : state.isConsistent = true) :
    state.Lists element ↔ state.Takes element ∧ state.repeatsLiteral element = false := by
  rw [lists_iff consistent, takes_iff_kind (isRegular_of_isConsistent consistent)]
  constructor
  · rintro ⟨kind, named, comes, kept⟩
    refine ⟨⟨kind, named, comes, .inl kept⟩, Bool.eq_false_iff.2 fun repeats => ?_⟩
    exact kept (leftOut_of_repeatsLiteral named repeats)
  · rintro ⟨⟨kind, named, comes, kept | repeats⟩, single⟩
    · exact ⟨kind, named, comes, kept⟩
    · rw [single] at repeats
      cases repeats

/-- No kind is listed in vain. -/
theorem exists_kindOf?_of_mem_expected {state : State} {kind : Kind}
    (consistent : state.isConsistent = true) (listed : kind ∈ state.expected false) :
    ∃ element, kindOf? element = some kind := by
  rw [expected, if_neg Bool.false_ne_true, Kind.mem_ordered, accepted_eq_filter consistent,
    List.mem_filter] at listed
  exact Zone.exists_kindOf?_of_mem listed.1

end State

/-- Where a literal has been read to its end, no literal begins. -/
theorem scanToken_ne_literal_of_literal {state next : State} {input between after text again : Text}
    (scanned : scanToken state input = .ok (.literal text, between)) :
    scanToken next between ≠ .ok (.literal again, after) := by
  intro rescanned
  have exhausted := scanLiteral_exhausted input
  rw [(scanLiteral_of_scanToken scanned).2, (scanLiteral_of_scanToken rescanned).2] at exhausted
  exact (scanLiteral_of_scanToken rescanned).1 exhausted

/-! ## The law -/

/-- A state that elements lead to from the start lists just what it takes, apart from a literal
right behind a literal, which it takes and does not list, and it lists no kind in vain. The reader
of tokens finds no such literal on one level: where one has been read to its end, none begins. -/
theorem State.lists_iff_takes_of_steps :
    (∀ elements state, State.initial.steps elements = .ok state →
      (∀ element,
        state.Lists element ↔ state.Takes element ∧ state.repeatsLiteral element = false) ∧
      (∀ element, state.repeatsLiteral element = true → state.Takes element) ∧
      ∀ kind ∈ state.expected false, ∃ element, kindOf? element = some kind) ∧
    ∀ state next input text between again after,
      scanToken state input = .ok (.literal text, between) →
        scanToken next between ≠ .ok (.literal again, after) := by
  refine ⟨fun elements state reached => ?_, fun _ _ _ _ _ _ _ => scanToken_ne_literal_of_literal⟩
  have consistent := State.exists_steps_iff.1 ⟨elements, reached⟩
  exact ⟨fun _ => State.lists_iff_takes consistent,
    fun _ => State.takes_of_repeatsLiteral consistent,
    fun _ => State.exists_kindOf?_of_mem_expected consistent⟩

/-- The law in a fragment, behind a literal. -/
theorem State.lists_iff_takes_of_steps_fragment :
    ∃ state,
      State.initial.steps
          [.item .slash, .group (.item .slash .nil), .item .question,
            .item (.pair ['k'] (.literal ['v'])), .item .hash, .item (.literal ['b'])] =
        .ok state ∧
      (state.Lists (.group .nil) ↔
        state.Takes (.group .nil) ∧ state.repeatsLiteral (.group .nil) = false) ∧
      state.Takes (.item (.literal ['c'])) ∧
      .manyCapture ∈ state.expected false ∧ (∃ element, kindOf? element = some .manyCapture) ∧
      scanToken state ['c', '{', '}'] = .ok (.literal ['c'], ['{', '}']) ∧
      scanToken state ['{', '}'] ≠ .ok (.literal ['c'], []) := by
  have reached :
      State.initial.steps
          [.item .slash, .group (.item .slash .nil), .item .question,
            .item (.pair ['k'] (.literal ['v'])), .item .hash, .item (.literal ['b'])] =
        .ok ⟨.fragment, some (.item (.literal ['b']))⟩ :=
    rfl
  have scanned :
      scanToken ⟨.fragment, some (.item (.literal ['b']))⟩ ['c', '{', '}'] =
        .ok (.literal ['c'], ['{', '}']) := by
    cbv
  obtain ⟨agrees, apart⟩ := State.lists_iff_takes_of_steps
  obtain ⟨lists, repeats, named⟩ := agrees _ _ reached
  exact ⟨_, reached, lists _, repeats _ rfl, by decide, named _ (by decide), scanned,
    apart _ _ _ _ _ _ _ scanned⟩

end TypedRoutes.Pattern
