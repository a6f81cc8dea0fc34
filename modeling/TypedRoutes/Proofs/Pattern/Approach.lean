import TypedRoutes.Proofs.Pattern.Derivation
import TypedRoutes.Proofs.Pattern.Locality
import TypedRoutes.Proofs.Pattern.Zone

/-!
Contract: how far the reader comes into a text, and what stops it there.

What has been read leads to a position, whatever is behind it: the levels that wait for a group to
close, the level the reader is in, and whether a literal is open to go on. From a position the
reader stops in one of a few ways. So a text is refused just if it can be cut at a position that
refuses what is left.

Owns: the relation `Reaches`, what holds of every position, and the ways to halt.
-/

set_option autoImplicit false

namespace TypedRoutes.Pattern

open TypedRoutes.Text

theorem Level.push_elements_ne_nil (level : Level) (element : Element Token) (next : State) :
    (level.push element next).elements ≠ .nil := by
  intro empty
  have length := congrArg (fun elements => (Grouped.elements elements).length) empty
  cases element <;>
    simp [Level.push, Grouped.single, Grouped.cons, Grouped.elements] at length

/-! ## Positions -/

/-- Where the reader is between two lexemes: the levels that wait for a group to close, the
innermost first, the level it is in, and whether a literal was last and can go on. -/
structure Position where
  outers : List Level := []
  level : Level := {}
  inLiteral : Bool := false

namespace Position

def inGroup (position : Position) : Bool :=
  !position.outers.isEmpty

def take (position : Position) (token : Token) (next : State) : Position where
  outers := position.outers
  level := position.level.push (.item token) next
  inLiteral := token.endsInLiteral

def enter (position : Position) : Position where
  outers := position.level :: position.outers
  level := { state := position.level.state.enterGroup }

/-- The position behind the end of a group, in the level that waited for it. -/
def leave (position : Position) (outer : Level) (outers : List Level) (next : State) :
    Position where
  outers := outers
  level := outer.push (.group position.level.elements) next

theorem inGroup_eq {position : Position} {frames : List Frame}
    (waiting : frames.map Frame.outer = position.outers) :
    position.inGroup = !frames.isEmpty := by
  rw [inGroup, ← waiting, List.isEmpty_map]

/-- Whether the text behind a position leaves its literal as it is. -/
def Leaves (position : Position) (rest : Text) : Prop :=
  position.inLiteral = true → (scanLiteral rest).1 = []

end Position

/-- `Reaches seen position`: having read `seen`, the reader is at the position, whatever is behind
that leaves its literal as it is. -/
inductive Reaches : Text → Position → Prop where
  | start : Reaches [] {}
  | token {seen lexeme : Text} {position : Position} {c : Char} {token : Token} {next : State}
      (before : Reaches seen position) (plain : isGroupMark c = false)
      (scanned :
        ∀ rest, scanToken position.level.state (c :: (lexeme ++ rest)) = .ok (token.goOn rest))
      (apart : position.inLiteral = true → token.runsOn = false)
      (unmarked : (position.inGroup && token.isPartMark) = false)
      (stepped : position.level.state.step (.item token) = .ok next) :
      Reaches (seen ++ c :: lexeme) (position.take token next)
  | opening {seen : Text} {position : Position} (before : Reaches seen position)
      (opened : position.level.state.Takes (.group .nil)) :
      Reaches (seen ++ ['(']) position.enter
  | closing {seen : Text} {position : Position} {outer : Level} {outers : List Level} {next : State}
      (before : Reaches seen position) (waiting : position.outers = outer :: outers)
      (nonempty : position.level.elements ≠ .nil)
      (stepped : outer.state.step (.group position.level.elements) = .ok next) :
      Reaches (seen ++ [')']) (position.leave outer outers next)

/-- No token of its own goes on from the literal before it, so it leaves that as it is. -/
theorem Position.leaves_of_scanToken {position : Position} {c : Char} {lexeme rest : Text}
    {token : Token}
    (scanned : scanToken position.level.state (c :: (lexeme ++ rest)) = .ok (token.goOn rest))
    (apart : position.inLiteral = true → token.runsOn = false) :
    position.Leaves (c :: (lexeme ++ rest)) := by
  intro inLiteral
  have runs : (token.goOn rest).1.runsOn = false ↔ (scanLiteral (c :: (lexeme ++ rest))).1 = [] :=
    (exists_lexeme_of_scanToken scanned).1
  rw [Token.runsOn_goOn] at runs
  exact runs.1 (apart inLiteral)

/-- The reader comes to every position that what it has read leads to. -/
theorem Reaches.exists_frames {seen : Text} {position : Position} (reaches : Reaches seen position)
    (rest : Text) (leaves : position.Leaves rest) :
    ∃ frames : List Frame,
      frames.map Frame.outer = position.outers ∧
        readFrom [] {} (seen ++ rest) = readFrom frames position.level rest := by
  induction reaches generalizing rest with
  | start => exact ⟨[], rfl, rfl⟩
  | @token seen lexeme position c token next _ plain scanned apart unmarked stepped
      inductionHypothesis =>
    have left := Position.leaves_of_scanToken (scanned rest) apart
    obtain ⟨frames, waiting, comes⟩ := inductionHypothesis (c :: (lexeme ++ rest)) left
    refine ⟨frames, waiting, ?_⟩
    have taken := scanned rest
    rw [Token.goOn_eq_iff.2 leaves] at taken
    rw [Position.inGroup_eq waiting] at unmarked
    rw [List.append_assoc, List.cons_append, comes]
    exact readFrom_token plain taken unmarked stepped
  | @opening seen position _ opened inductionHypothesis =>
    obtain ⟨frames, waiting, comes⟩ := inductionHypothesis ('(' :: rest) fun _ => rfl
    obtain ⟨next, stepped⟩ := opened
    refine ⟨⟨position.level, '(' :: rest⟩ :: frames, congrArg _ waiting, ?_⟩
    rw [List.append_assoc, List.singleton_append, comes]
    exact readFrom_open stepped
  | @closing seen position outer outers next _ waiting nonempty stepped inductionHypothesis =>
    obtain ⟨frames, waitingAlso, comes⟩ := inductionHypothesis (')' :: rest) fun _ => rfl
    rw [waiting] at waitingAlso
    obtain ⟨frame, below, rfl, rfl, rfl⟩ := List.map_eq_cons_iff.1 waitingAlso
    refine ⟨below, rfl, ?_⟩
    rw [List.append_assoc, List.singleton_append, comes]
    exact readFrom_close nonempty stepped

/-- What holds of every position: the levels that wait are in bodies, where nothing has been read
on a level a literal can begin, and a literal that can go on is the end of the token before. -/
structure Position.IsSound (position : Position) : Prop where
  regular : position.level.state.IsRegular
  outers : ∀ outer ∈ position.outers, outer.state.IsRegular ∧ outer.state.zone.isBody = true
  fresh :
    position.level.elements = .nil →
      position.inLiteral = false ∧ ∀ text, position.level.state.Takes (.item (.literal text))
  literal :
    position.inLiteral = true →
      ∃ token : Token, token.endsInLiteral = true ∧
        position.level.state.previous = some (.item token)

/-- The level right around an open group is in a body. -/
theorem Position.IsSound.waits {position : Position} {outer : Level} {outers : List Level}
    (sound : position.IsSound) (waiting : position.outers = outer :: outers) :
    outer.state.IsRegular ∧ outer.state.zone.isBody = true := by
  apply sound.outers
  rw [waiting]
  exact List.mem_cons_self

theorem Reaches.isSound {seen : Text} {position : Position} (reaches : Reaches seen position) :
    position.IsSound := by
  induction reaches with
  | start => exact ⟨fun _ => rfl, by simp, fun _ => ⟨rfl, fun _ => ⟨_, rfl⟩⟩, by simp⟩
  | @token _ _ _ _ token _ _ _ _ _ _ stepped inductionHypothesis =>
    have regular := inductionHypothesis.regular
    refine ⟨State.step_isRegular regular stepped, inductionHypothesis.outers,
      fun empty => absurd empty (Level.push_elements_ne_nil _ _ _), fun inLiteral => ?_⟩
    obtain ⟨_, _, rfl⟩ := (State.step_eq_ok_iff regular).1 stepped
    exact ⟨token, inLiteral, rfl⟩
  | @opening seen position _ opened inductionHypothesis =>
    have regular := inductionHypothesis.regular
    have body := (State.takes_group_iff .nil regular).1 opened
    have entered := State.enterGroup_isRegular regular
    refine ⟨entered, List.forall_mem_cons.2 ⟨⟨regular, body⟩, inductionHypothesis.outers⟩,
      fun _ => ⟨rfl, fun text => ?_⟩, fun inLiteral => by cases inLiteral⟩
    refine (State.takes_literal_iff text entered).2 ⟨?_, State.isGroup_enterGroup _⟩
    rw [State.zone_enterGroup body]
    exact body
  | @closing seen position outer outers next _ waiting nonempty stepped inductionHypothesis =>
    have waits := inductionHypothesis.outers
    rw [waiting] at waits
    obtain ⟨⟨regular, _⟩, others⟩ := List.forall_mem_cons.1 waits
    exact ⟨State.step_isRegular regular stepped, others,
      fun empty => absurd empty (Level.push_elements_ne_nil _ _ _),
      fun inLiteral => by cases inLiteral⟩

theorem Position.IsSound.inLiteral_eq_false {position : Position} (sound : position.IsSound)
    (awaits : (position.level.state.inQuery && position.level.state.awaitsPair) = true) :
    position.inLiteral = false := by
  rw [Bool.eq_false_iff]
  intro inLiteral
  obtain ⟨token, ends, before⟩ := sound.literal inLiteral
  rw [Bool.and_eq_true, State.awaitsPair, before] at awaits
  cases token with
  | question | ampersand => cases ends
  | _ => cases awaits.2

theorem Position.IsSound.leaves {position : Position} (sound : position.IsSound)
    (awaits : (position.level.state.inQuery && position.level.state.awaitsPair) = true)
    (input : Text) :
    position.Leaves input := by
  intro inLiteral
  rw [sound.inLiteral_eq_false awaits] at inLiteral
  cases inLiteral

/-- Outside of groups, nothing on the level means that nothing has been read at all. -/
theorem Reaches.eq_nil {seen : Text} {position : Position} (reaches : Reaches seen position)
    (outside : position.outers = []) (empty : position.level.elements = .nil) :
    seen = [] := by
  cases reaches with
  | start => rfl
  | token => exact absurd empty (Level.push_elements_ne_nil _ _ _)
  | opening => cases outside
  | closing => exact absurd empty (Level.push_elements_ne_nil _ _ _)

theorem Reaches.eq_start {position : Position} (reaches : Reaches [] position) : position = {} := by
  generalize empty : ([] : Text) = seen at reaches
  cases reaches with
  | start => rfl
  | _ => simp at empty

/-! ## Where reading halts -/

/-- `position.Halts rest refusal`: the reader refuses what is left behind the position. -/
inductive Position.Halts (position : Position) : Text → Refusal → Prop where
  | blank (outside : position.outers = []) (empty : position.level.elements = .nil) :
      position.Halts [] (.fault { expected := position.level.state.expected false, rest := [] })
  | unclosed (inside : position.outers ≠ []) :
      position.Halts [] (.fault (stepFault position.level.state (some .unclosedGroup) true []))
  | stray {rest : Text} (outside : position.outers = []) :
      position.Halts (')' :: rest)
        (.fault (stepFault position.level.state none false (')' :: rest)))
  | hollow {rest : Text} (inside : position.outers ≠ []) (empty : position.level.elements = .nil) :
      position.Halts (')' :: rest)
        (.fault
          { reason := some .emptyGroup, expected := [.slash, .literal], rest := ')' :: rest })
  | opening {rest : Text} {reason : Option Reason}
      (refused : position.level.state.step (.group .nil) = .error reason) :
      position.Halts ('(' :: rest)
        (.fault (stepFault position.level.state reason false ('(' :: rest)))
  | lexeme {c : Char} {rest : Text} {refusal : Refusal} (plain : isGroupMark c = false)
      (refused : scanToken position.level.state (c :: rest) = .error refusal) :
      position.Halts (c :: rest) refusal
  | token {c : Char} {rest after : Text} {token : Token} {refusal : Refusal}
      (plain : isGroupMark c = false)
      (scanned : scanToken position.level.state (c :: rest) = .ok (token, after))
      (refused : position.level.take token position.inGroup (c :: rest) = .error refusal) :
      position.Halts (c :: rest) refusal

theorem Position.Halts.readFrom_eq {position : Position} {rest : Text} {refusal : Refusal}
    {frames : List Frame} (halts : position.Halts rest refusal)
    (begun : position.outers = [] → position.level.elements = .nil → rest ≠ [])
    (waiting : frames.map Frame.outer = position.outers) :
    readFrom frames position.level rest = .error refusal := by
  have depth := Position.inGroup_eq waiting
  cases halts with
  | blank outside empty => exact absurd rfl (begun outside empty)
  | unclosed inside =>
    cases frames with
    | nil => exact absurd waiting.symm inside
    | cons frame below => rw [readFrom]
  | stray outside =>
    rw [outside, List.map_eq_nil_iff] at waiting
    rw [waiting, readFrom]
  | hollow inside empty =>
    cases frames with
    | nil => exact absurd waiting.symm inside
    | cons frame below => rw [readFrom, if_pos empty]
  | opening refused => rw [readFrom, refused]
  | lexeme plain refused =>
    rw [readFrom_of_plain plain]
    exact bind_eq_error_iff.2 (.inl refused)
  | token plain scanned refused =>
    rw [depth] at refused
    rw [readFrom_of_plain plain]
    exact bind_eq_error_iff.2 (.inr ⟨_, scanned, bind_eq_error_iff.2 (.inl refused)⟩)

/-- `StopsBehind seen input refusal`: behind what has been seen, the reader comes to a position in
the input, or stays where it is, and halts there. -/
def StopsBehind (seen input : Text) (refusal : Refusal) : Prop :=
  ∃ more rest position, more ++ rest = input ∧ Reaches (seen ++ more) position ∧
    position.Leaves rest ∧ position.Halts rest refusal

namespace StopsBehind

theorem here {seen input : Text} {refusal : Refusal} {position : Position}
    (reaches : Reaches seen position) (leaves : position.Leaves input)
    (halts : position.Halts input refusal) :
    StopsBehind seen input refusal :=
  ⟨[], input, position, rfl, by rw [List.append_nil]; exact reaches, leaves, halts⟩

theorem further {seen input : Text} {refusal : Refusal} (lexeme : Text)
    (stops : StopsBehind (seen ++ lexeme) input refusal) :
    StopsBehind seen (lexeme ++ input) refusal := by
  obtain ⟨more, rest, position, rfl, reaches, leaves, halts⟩ := stops
  rw [List.append_assoc] at reaches
  exact ⟨lexeme ++ more, rest, position, List.append_assoc _ _ _, reaches, leaves, halts⟩

end StopsBehind

/-- The reader takes a character as a token once it is neither the opening nor the end of a group,
with levels waiting or without. -/
theorem isGroupMark_eq_false {c : Char} {frames : List Frame} (notOpening : c = '(' → False)
    (notClosing : frames = [] → c = ')' → False)
    (notClosingBelow : ∀ frame below, frames = frame :: below → c = ')' → False) :
    isGroupMark c = false := by
  have unclosing : c ≠ ')' := by
    cases frames with
    | nil => exact notClosing rfl
    | cons frame below => exact notClosingBelow frame below rfl
  have unopening : c ≠ '(' := notOpening
  simp [isGroupMark, unopening, unclosing]

theorem isGroupMark_of_scanLiteral {c : Char} {rest : Text}
    (begins : (scanLiteral (c :: rest)).1 ≠ []) :
    isGroupMark c = false := by
  rw [Bool.eq_false_iff]
  intro marked
  simp only [isGroupMark, Bool.or_eq_true, decide_eq_true_eq] at marked
  rcases marked with rfl | rfl <;> exact begins rfl

/-- A token that may not stand where it is found is a fault right there. -/
theorem Level.exists_fault_of_take {level : Level} {token : Token} {inGroup : Bool} {input : Text}
    {refusal : Refusal} (refused : level.take token inGroup input = .error refusal) :
    ∃ fault, refusal = .fault fault ∧ fault.rest = input := by
  unfold Level.take at refused
  split at refused
  · cases refused
    exact ⟨_, rfl, rfl⟩
  · split at refused
    · cases refused
      exact ⟨_, rfl, rfl⟩
    · cases refused

/-- A token that the reader takes is a lexeme that leads on, and is read to its end. -/
theorem Reaches.exists_token {seen rest after : Text} {position : Position} {c : Char}
    {token : Token} {next : State} (reaches : Reaches seen position)
    (leaves : position.Leaves (c :: rest)) (plain : isGroupMark c = false)
    (scanned : scanToken position.level.state (c :: rest) = .ok (token, after))
    (unmarked : (position.inGroup && token.isPartMark) = false)
    (stepped : position.level.state.step (.item token) = .ok next) :
    ∃ lexeme, rest = lexeme ++ after ∧
      Reaches (seen ++ c :: lexeme) (position.take token next) ∧
        (position.take token next).Leaves after := by
  obtain ⟨runs, lexeme, rfl, again⟩ := exists_lexeme_of_scanToken scanned
  refine ⟨lexeme, rfl, reaches.token plain again ?_ unmarked stepped, ?_⟩
  · intro inLiteral
    exact runs.2 (leaves inLiteral)
  · rw [again, Except.ok.injEq] at scanned
    exact Token.goOn_eq_iff.1 scanned

/-- A reader that refuses a text comes to a position where it halts. -/
theorem Reaches.stopsBehind {frames : List Frame} {level : Level} {input seen : Text}
    {refusal : Refusal} {position : Position} (reaches : Reaches seen position)
    (refused : readFrom frames level input = .error refusal) (leaves : position.Leaves input)
    (standing : position.level = level) (waiting : frames.map Frame.outer = position.outers) :
    StopsBehind seen input refusal := by
  fun_induction readFrom frames level input generalizing seen position with
  | case1 level => cases refused
  | case2 level frame below =>
    cases refused
    subst standing
    exact .here reaches leaves (.unclosed (by simp [← waiting]))
  | case3 level rest =>
    cases refused
    subst standing
    exact .here reaches leaves (.stray waiting.symm)
  | case4 level rest frame below empty =>
    cases refused
    subst standing
    exact .here reaches leaves (.hollow (by simp [← waiting]) empty)
  | case5 level rest frame below nonempty refusal' closed =>
    -- Where a group may be opened it may also be closed.
    obtain ⟨regular, body⟩ := reaches.isSound.outers frame.outer (by simp [← waiting])
    obtain ⟨next, stepped⟩ := (State.takes_group_iff level.elements regular).2 body
    rw [Frame.close_eq_ok_iff.2 ⟨next, stepped, rfl⟩] at closed
    cases closed
  | case6 level rest frame below nonempty outer closed inductionHypothesis =>
    obtain ⟨next, stepped, rfl⟩ := Frame.close_eq_ok_iff.1 closed
    subst standing
    have left := reaches.closing waiting.symm nonempty stepped
    refine .further [')'] ?_
    exact inductionHypothesis left refused (fun inLiteral => by cases inLiteral) rfl rfl
  | case7 frames level rest reason opening =>
    cases refused
    subst standing
    exact .here reaches leaves (.opening opening)
  | case8 frames level rest next opening inductionHypothesis =>
    subst standing
    have entered := reaches.opening ⟨next, opening⟩
    refine .further ['('] ?_
    exact inductionHypothesis entered refused (fun inLiteral => by cases inLiteral) rfl
      (congrArg _ waiting)
  | case9 frames level c rest notOpening refusal' failed notClosing notClosingBelow =>
    cases refused
    subst standing
    have plain := isGroupMark_eq_false notOpening notClosing notClosingBelow
    exact .here reaches leaves (.lexeme plain failed)
  | case10 frames level c rest notOpening token after scanned refusal' taken notClosing
      notClosingBelow =>
    rw [taken] at refused
    cases refused
    subst standing
    have plain := isGroupMark_eq_false notOpening notClosing notClosingBelow
    rw [← Position.inGroup_eq waiting] at taken
    exact .here reaches leaves (.token plain scanned taken)
  | case11 frames level c rest notOpening token after scanned next taken notClosing notClosingBelow
      inductionHypothesis =>
    rw [taken] at refused
    obtain ⟨unmarked, state, stepped, rfl⟩ := Level.take_eq_ok_iff.1 taken
    subst standing
    have plain := isGroupMark_eq_false notOpening notClosing notClosingBelow
    rw [← Position.inGroup_eq waiting] at unmarked
    obtain ⟨lexeme, rfl, further, ended⟩ :=
      reaches.exists_token leaves plain scanned unmarked stepped
    refine .further (c :: lexeme) ?_
    exact inductionHypothesis further refused ended rfl waiting

end TypedRoutes.Pattern

namespace TypedRoutes

open TypedRoutes.Text TypedRoutes.Pattern

/-- A text is refused just where the reader comes to a position that refuses what is left. -/
theorem Pattern.read_eq_error_iff {text : Text} {error : PatternError} :
    Pattern.read text = .error error ↔
      ∃ refusal, StopsBehind [] text refusal ∧ refusal.locate text 0 text = error := by
  cases text with
  | nil =>
    constructor
    · intro refused
      exact ⟨_, .here .start (fun _ => rfl) (.blank rfl rfl), Except.error.inj refused⟩
    · rintro ⟨refusal, ⟨more, rest, position, whole, reaches, _, halts⟩, rfl⟩
      obtain ⟨rfl, rfl⟩ := List.append_eq_nil_iff.1 whole
      obtain rfl := reaches.eq_start
      cases halts with
      | blank => rfl
      | unclosed inside => exact absurd rfl inside
  | cons c rest =>
    rw [Pattern.read, mapError_eq_error_iff]
    refine exists_congr fun refusal => and_congr_left fun _ => ?_
    constructor
    · intro refused
      exact Reaches.start.stopsBehind refused (fun inLiteral => by cases inLiteral) rfl rfl
    · rintro ⟨more, rest', position, whole, reaches, leaves, halts⟩
      obtain ⟨frames, waiting, comes⟩ := reaches.exists_frames rest' leaves
      rw [← whole]
      refine comes.trans (halts.readFrom_eq ?_ waiting)
      intro outside empty
      obtain rfl := reaches.eq_nil outside empty
      rw [List.nil_append] at whole
      rw [whole]
      exact List.cons_ne_nil c rest

/-- A text that leads out of all groups is the text of a pattern. -/
theorem Pattern.read_of_reaches {text : Text} {position : Position}
    (reaches : Reaches text position) (nonempty : text ≠ []) (outside : position.outers = []) :
    Pattern.read text = .ok position.level.elements := by
  obtain ⟨frames, waiting, comes⟩ := reaches.exists_frames [] fun _ => rfl
  rw [outside, List.map_eq_nil_iff] at waiting
  rw [waiting, List.append_nil, readFrom] at comes
  obtain ⟨c, rest, rfl⟩ := List.exists_cons_of_ne_nil nonempty
  exact mapError_eq_ok_iff.2 comes

end TypedRoutes
