import TypedRoutes.Proofs.Pattern.Approach
import TypedRoutes.Proofs.Pattern.Unfinished

/-!
Contract: which beginnings of a refused text can still become patterns.

Every position that the reader comes to can be led to the end of a pattern, by a literal where
nothing has been read and an end for every group. So a text that is refused can be completed up to
where its fault is, but for the faults inside of captures: a capture is read to its end before it
is looked at whether one may stand there.

Owns: completable texts, misplaced captures, and that the fault of a refused text is at a
completable place unless a capture is misplaced there.
-/

set_option autoImplicit false

namespace TypedRoutes.Pattern

open TypedRoutes.Text TypedRoutes.Number

/-! ## Completing what has been reached -/

/-- Whether a text is the beginning of the text of a pattern. -/
def IsCompletable (text : Text) : Prop :=
  ∃ behind pattern, Pattern.read (text ++ behind) = .ok pattern

theorem IsCompletable.of_append {text more : Text} (completable : IsCompletable (text ++ more)) :
    IsCompletable text := by
  obtain ⟨behind, pattern, accepted⟩ := completable
  rw [List.append_assoc] at accepted
  exact ⟨more ++ behind, pattern, accepted⟩

/-- A token that makes up the whole of a text leads on, where it may stand. -/
theorem Reaches.whole {seen more : Text} {position : Position} {c : Char} {token : Token}
    {next : State} (reaches : Reaches seen position) (plain : isGroupMark c = false)
    (scanned : scanToken position.level.state (c :: more) = .ok (token, []))
    (apart : position.inLiteral = true → token.runsOn = false) (unmarked : token.isPartMark = false)
    (stepped : position.level.state.step (.item token) = .ok next) :
    Reaches (seen ++ c :: more) (position.take token next) := by
  obtain ⟨_, lexeme, whole, again⟩ := exists_lexeme_of_scanToken scanned
  rw [List.append_nil] at whole
  rw [whole]
  exact reaches.token plain again apart (by simp [unmarked]) stepped

/-- A literal that makes up the whole of a text leads on, if no other one is open before it. -/
theorem Reaches.exists_literal {seen more text : Text} {position : Position} {c : Char}
    (reaches : Reaches seen position) (scanned : scanLiteral (c :: more) = (text, []))
    (nonempty : text ≠ []) (closed : position.inLiteral = false)
    (takes : position.level.state.Takes (.item (.literal text))) :
    ∃ next, Reaches (seen ++ c :: more) (position.take (.literal text) next) := by
  have begins : (scanLiteral (c :: more)).1 ≠ [] := by rwa [scanned]
  have elsewhere : (position.level.state.inQuery && position.level.state.awaitsPair) = false := by
    obtain ⟨body, _⟩ := (State.takes_literal_iff text reaches.isSound.regular).1 takes
    rw [State.awaits_eq, decide_eq_false_iff_not]
    intro awaiting
    rw [awaiting] at body
    cases body
  have uncaptured : startsWithCapture (c :: more) = false := by
    rw [Bool.eq_false_iff]
    exact fun capture => begins (scanLiteral_of_startsWithCapture capture)
  obtain ⟨next, stepped⟩ := takes
  refine ⟨next, reaches.whole (isGroupMark_of_scanLiteral begins) ?_ (by simp [closed]) rfl stepped⟩
  rcases scanToken_cons position.level.state c with
    ⟨_, _, _, _, _, empty⟩ | ⟨awaits, _⟩ | ⟨_, law⟩
  · exact absurd (empty more) begins
  · rw [elsewhere] at awaits
    cases awaits
  · rw [law, uncaptured, scanned]
    exact if_neg nonempty

/-- A position with something on its level becomes a pattern by the ends of all its groups. -/
theorem Reaches.isCompletable_of_elements {seen : Text} {position : Position}
    (reaches : Reaches seen position) (begun : position.level.elements ≠ .nil) :
    IsCompletable seen := by
  induction waiting : position.outers generalizing seen position with
  | nil =>
    have nonempty : seen ≠ [] := by
      rintro rfl
      rw [reaches.eq_start] at begun
      exact begun rfl
    refine ⟨[], position.level.elements, ?_⟩
    rw [List.append_nil]
    exact Pattern.read_of_reaches reaches nonempty waiting
  | cons outer outers inductionHypothesis =>
    obtain ⟨regular, body⟩ := reaches.isSound.waits waiting
    obtain ⟨next, stepped⟩ := (State.takes_group_iff position.level.elements regular).2 body
    have left := reaches.closing waiting begun stepped
    exact (inductionHypothesis left (Level.push_elements_ne_nil _ _ _) rfl).of_append

/-- What the reader comes behind is the beginning of a pattern. -/
theorem Reaches.isCompletable {seen : Text} {position : Position}
    (reaches : Reaches seen position) :
    IsCompletable seen := by
  by_cases empty : position.level.elements = .nil
  · obtain ⟨closed, takes⟩ := reaches.isSound.fresh empty
    have scanned : scanLiteral ['a'] = (['a'], []) := rfl
    obtain ⟨next, further⟩ := reaches.exists_literal scanned (by simp) closed (takes ['a'])
    exact (further.isCompletable_of_elements (Level.push_elements_ne_nil _ _ _)).of_append
  · exact reaches.isCompletable_of_elements empty

theorem Reaches.exists_prolonged {seen : Text} {position : Position}
    (reaches : Reaches seen position) (inLiteral : position.inLiteral = true) :
    ∃ prolonged, Reaches (seen ++ ['{', '{']) prolonged := by
  cases reaches with
  | start => cases inLiteral
  | opening => cases inLiteral
  | closing => cases inLiteral
  | @token seen lexeme position c token _ before plain scanned apart unmarked stepped =>
    have regular := before.isSound.regular
    have prolonged (longer : Token)
        (goesOn : ∀ rest, token.goOn ('{' :: '{' :: rest) = longer.goOn rest)
        (alike : longer.runsOn = token.runsOn ∧ longer.isPartMark = token.isPartMark)
        (takes : position.level.state.Takes (.item longer)) :
        ∃ prolonged, Reaches (seen ++ c :: lexeme ++ ['{', '{']) prolonged := by
      obtain ⟨next, taken⟩ := takes
      refine ⟨position.take longer next, ?_⟩
      rw [List.append_assoc, List.cons_append]
      refine before.token plain (fun rest => ?_) ?_ ?_ taken
      · rw [List.append_assoc, scanned]
        exact congrArg _ (goesOn rest)
      · rw [alike.1]
        exact apart
      · rw [alike.2]
        exact unmarked
    cases token with
    | literal text =>
      have takes := (State.takes_literal_iff text regular).1 ⟨_, stepped⟩
      refine prolonged (.literal (text ++ ['{'])) (fun rest => ?_) ⟨rfl, rfl⟩
        ((State.takes_literal_iff _ regular).2 takes)
      simp [Token.goOn, scanLiteral]
    | pair key value =>
      cases value with
      | literal text =>
        have takes := (State.takes_pair_iff key (.literal text) regular).1 ⟨_, stepped⟩
        refine prolonged (.pair key (.literal (text ++ ['{']))) (fun rest => ?_) ⟨rfl, rfl⟩
          ((State.takes_pair_iff key _ regular).2 takes)
        simp [Token.goOn, scanLiteral]
      | capture block => cases inLiteral
    | _ => cases inLiteral

/-! ## Misplaced captures -/

/-- Beginnings that end inside of a capture that no pattern can have there: where no capture may
stand, or with a count as the value of a query pair. A brace alone is not yet a capture if a
literal can stand in its place. -/
inductive IsMisplaced : Text → Prop where
  | capture {seen part : Text} {position : Position} (reaches : Reaches seen position)
      (elsewhere : (position.level.state.inQuery && position.level.state.awaitsPair) = false)
      (refused : ∀ block, ¬ position.level.state.Takes (.item (.capture block)))
      (single : part.head? ≠ some '{')
      (begun :
        part = [] →
          position.inLiteral = false ∧
            ∀ text, ¬ position.level.state.Takes (.item (.literal text))) :
      IsMisplaced (seen ++ '{' :: part)
  | value {seen key counted : Text} {position : Position} (reaches : Reaches seen position)
      (awaits : (position.level.state.inQuery && position.level.state.awaitsPair) = true)
      (isKey : IsKey key) (isCounted : IsCounted counted) :
      IsMisplaced (seen ++ (key ++ '=' :: '{' :: counted))

/-- What is accepted behind a position begins with a token that may stand there. -/
theorem Reaches.exists_next {seen rest : Text} {position : Position} {c : Char} {pattern : Pattern}
    (reaches : Reaches seen position) (leaves : position.Leaves (c :: rest))
    (plain : isGroupMark c = false) (accepted : Pattern.read (seen ++ c :: rest) = .ok pattern) :
    ∃ token after, scanToken position.level.state (c :: rest) = .ok (token, after) ∧
      position.level.state.Takes (.item token) := by
  obtain ⟨frames, _, comes⟩ := reaches.exists_frames (c :: rest) leaves
  have read : readFrom [] {} (seen ++ c :: rest) = .ok pattern := readFrom_of_read accepted
  rw [comes, readFrom_of_plain plain] at read
  obtain ⟨⟨token, after⟩, scanned, read⟩ := bind_eq_ok_iff.1 read
  obtain ⟨next, taken, _⟩ := bind_eq_ok_iff.1 read
  obtain ⟨_, state, stepped, _⟩ := Level.take_eq_ok_iff.1 taken
  exact ⟨token, after, scanned, state, stepped⟩

/-- Where neither a capture nor a literal may stand, a brace does not lead on. -/
theorem Reaches.not_accepts_capture {seen part : Text} {position : Position} {pattern : Pattern}
    (reaches : Reaches seen position)
    (elsewhere : (position.level.state.inQuery && position.level.state.awaitsPair) = false)
    (refused : ∀ block, ¬ position.level.state.Takes (.item (.capture block)))
    (begun :
      startsWithCapture ('{' :: part) = false →
        position.inLiteral = false ∧ ∀ text, ¬ position.level.state.Takes (.item (.literal text))) :
    Pattern.read (seen ++ '{' :: part) ≠ .ok pattern := by
  intro accepted
  have leaves : position.Leaves ('{' :: part) := by
    intro inLiteral
    apply scanLiteral_of_startsWithCapture
    rw [← Bool.not_eq_false]
    intro uncaptured
    rw [(begun uncaptured).1] at inLiteral
    cases inLiteral
  obtain ⟨token, after, scanned, takes⟩ := reaches.exists_next leaves rfl accepted
  rcases scanToken_cons position.level.state '{' with
    ⟨_, _, _, _, _, bare⟩ | ⟨awaits, _⟩ | ⟨_, law⟩
  · exact absurd (bare ['{']) (by decide)
  · rw [elsewhere] at awaits
    cases awaits
  · rw [law] at scanned
    split at scanned
    · obtain ⟨⟨block, _⟩, _, returned⟩ := bind_eq_ok_iff.1 scanned
      cases returned
      exact refused block takes
    · rename_i uncaptured
      split at scanned
      · cases scanned
      · cases scanned
        exact (begun (Bool.eq_false_iff.2 uncaptured)).2 _ takes

/-- A capture with a count does not lead on as the value of a query pair. -/
theorem Reaches.not_accepts_value {seen key counted : Text} {position : Position}
    {pattern : Pattern} (reaches : Reaches seen position)
    (awaits : (position.level.state.inQuery && position.level.state.awaitsPair) = true)
    (isKey : IsKey key) (isCounted : IsCounted counted) :
    Pattern.read (seen ++ (key ++ '=' :: '{' :: counted)) ≠ .ok pattern := by
  intro accepted
  have keyed : scanLiteral (key ++ '=' :: '{' :: counted) =
      ((scanLiteral key).1, '=' :: '{' :: counted) :=
    isKey.scanLiteral_append rfl
  have begins : (scanLiteral (key ++ '=' :: '{' :: counted)).1 ≠ [] := by
    rw [keyed]
    exact isKey.1
  have captured := startsWithCapture_of_isCounted isCounted []
  rw [List.append_nil] at captured
  have refused : ∀ result, scanPair (key ++ '=' :: '{' :: counted) ≠ .ok result := by
    intro result scanned
    rw [scanPair_of_scanLiteral keyed isKey.1, if_pos captured, List.tail_cons] at scanned
    obtain ⟨⟨block, _⟩, within, scanned⟩ := bind_eq_ok_iff.1 scanned
    dsimp only at scanned
    split at scanned
    · rename_i one
      exact (scanCaptureBody_extent within).1 one isCounted
    · cases scanned
  obtain ⟨c, more, rfl⟩ := isKey.exists_cons
  obtain ⟨token, after, scanned, _⟩ :=
    reaches.exists_next (reaches.isSound.leaves awaits _) (isGroupMark_of_scanLiteral begins)
      accepted
  rcases scanToken_cons position.level.state c with
    ⟨_, _, _, _, _, bare⟩ | ⟨_, law⟩ | ⟨elsewhere, _⟩
  · exact absurd (bare _) begins
  · rw [law] at scanned
    exact refused _ scanned
  · rw [awaits] at elsewhere
    cases elsewhere

/-- No pattern begins with a misplaced capture. -/
theorem IsMisplaced.not_isCompletable {text : Text} (misplaced : IsMisplaced text) :
    ¬ IsCompletable text := by
  rintro ⟨behind, pattern, accepted⟩
  cases misplaced with
  | @capture seen part position reaches elsewhere refused single begun =>
    rw [List.append_assoc] at accepted
    refine reaches.not_accepts_capture elsewhere refused (fun uncaptured => begun ?_) accepted
    by_contra nonempty
    obtain ⟨c, more, rfl⟩ := List.exists_cons_of_ne_nil nonempty
    have captured : startsWithCapture ('{' :: (c :: more ++ behind)) = true :=
      startsWithCapture_cons single
    cases uncaptured.symm.trans captured
  | value reaches awaits isKey isCounted =>
    rw [List.append_assoc, List.append_assoc] at accepted
    exact reaches.not_accepts_value awaits isKey (isCounted_append isCounted behind) accepted

/-! ## Faults -/

/-- A capture that has begun can be finished and led to a pattern, or is misplaced. -/
theorem Reaches.isCompletable_or_isMisplaced {seen part more : Text} {position : Position}
    {block : Capture} (reaches : Reaches seen position)
    (elsewhere : (position.level.state.inQuery && position.level.state.awaitsPair) = false)
    (scanned : scanToken position.level.state ('{' :: (part ++ more)) = .ok (.capture block, [])) :
    IsCompletable (seen ++ '{' :: part) ∨ IsMisplaced (seen ++ '{' :: part) := by
  have regular := reaches.isSound.regular
  by_cases takes : position.level.state.Takes (.item (.capture block))
  · left
    obtain ⟨next, stepped⟩ := takes
    have finished := reaches.whole rfl scanned (fun _ => rfl) rfl stepped
    rw [← List.cons_append, ← List.append_assoc] at finished
    exact finished.isCompletable.of_append
  · have refused (other : Capture) : ¬ position.level.state.Takes (.item (.capture other)) := by
      rw [State.takes_capture_iff other regular, ← State.takes_capture_iff block regular]
      exact takes
    by_cases empty : part = []
    · subst empty
      have doubled {next : Position} (further : Reaches (seen ++ ['{', '{']) next) :
          IsCompletable (seen ++ ['{']) := by
        have completable := further.isCompletable
        rw [← List.singleton_append, ← List.append_assoc] at completable
        exact completable.of_append
      by_cases inLiteral : position.inLiteral = true
      · left
        obtain ⟨prolonged, further⟩ := reaches.exists_prolonged inLiteral
        exact doubled further
      · have closed : position.inLiteral = false := by simpa using inLiteral
        by_cases literal : position.level.state.Takes (.item (.literal ['{']))
        · left
          have scanned : scanLiteral ['{', '{'] = (['{'], []) := rfl
          obtain ⟨next, further⟩ := reaches.exists_literal scanned (by simp) closed literal
          exact doubled further
        · right
          refine .capture reaches elsewhere refused (by simp) fun _ => ⟨closed, fun text => ?_⟩
          rw [State.takes_literal_iff text regular, ← State.takes_literal_iff ['{'] regular]
          exact literal
    · right
      refine .capture reaches elsewhere refused ?_ fun nothing => absurd nothing empty
      intro doubled
      obtain ⟨rest, rfl⟩ := List.head?_eq_some_iff.1 doubled
      have bare := (exists_lexeme_of_scanToken scanned).1.1 rfl
      cases bare

/-- Up to a fault, a text can be completed, or ends in a misplaced capture. -/
theorem StopsBehind.isCompletable_or_isMisplaced {text : Text} {fault : Fault}
    (stops : StopsBehind [] text (.fault fault)) :
    ∃ part, text = part ++ fault.rest ∧ (IsCompletable part ∨ IsMisplaced part) := by
  obtain ⟨seen, rest, position, rfl, reaches, leaves, halts⟩ := stops
  rw [List.nil_append] at reaches
  have here (unread : fault.rest = rest) :
      ∃ part, seen ++ rest = part ++ fault.rest ∧ (IsCompletable part ∨ IsMisplaced part) :=
    ⟨seen, by rw [unread], .inl reaches.isCompletable⟩
  cases halts with
  | blank | unclosed | stray | hollow | opening => exact here rfl
  | token plain scanned refused =>
    obtain ⟨_, same, unread⟩ := Level.exists_fault_of_take refused
    cases same
    exact here unread
  | @lexeme c rest _ plain refused =>
    rcases exists_part_of_scanToken refused with unread | ⟨part, rfl, finished⟩
    · exact here unread
    · refine ⟨seen ++ c :: part, by simp, ?_⟩
      rcases finished with ⟨awaits, finished⟩ | ⟨elsewhere, rfl, more, block, scanned⟩
      · rcases finished with ⟨more, key, value, scanned⟩ | ⟨key, counted, isKey, isCounted, written⟩
        · left
          have closed := reaches.isSound.inLiteral_eq_false awaits
          obtain ⟨next, stepped⟩ :=
            (State.takes_pair_iff key value reaches.isSound.regular).2 awaits
          have whole := reaches.whole plain scanned (by simp [closed]) rfl stepped
          rw [← List.cons_append, ← List.append_assoc] at whole
          exact whole.isCompletable.of_append
        · right
          rw [written]
          exact .value reaches awaits isKey isCounted
      · exact reaches.isCompletable_or_isMisplaced elsewhere scanned

/-- The place of a fault is where the text is that was left to read. -/
theorem Fault.take_offset {fault : Fault} {text part : Text} (whole : text = part ++ fault.rest) :
    text.take (fault.diagnosis text 0 text).offset.toNat = part := by
  simp [Fault.diagnosis, whole]

end TypedRoutes.Pattern

namespace TypedRoutes

open TypedRoutes.Text TypedRoutes.Pattern

/-- A malformed text can be completed up to the place of its fault, unless it ends there in a
misplaced capture. -/
theorem Pattern.isCompletable_take_iff {text : Text} {diagnosis : Diagnosis}
    (refused : Pattern.read text = .error (.malformed diagnosis)) :
    IsCompletable (text.take diagnosis.offset.toNat) ↔
      ¬ IsMisplaced (text.take diagnosis.offset.toNat) := by
  obtain ⟨refusal, stops, located⟩ := Pattern.read_eq_error_iff.1 refused
  cases refusal with
  | number error => cases located
  | fault fault =>
    cases located
    obtain ⟨part, whole, settled⟩ := stops.isCompletable_or_isMisplaced
    rw [Fault.take_offset whole]
    constructor
    · intro completable misplaced
      exact misplaced.not_isCompletable completable
    · intro placed
      exact settled.resolve_right placed

/-- The law at a slash behind a slash, before which the text can be completed. -/
theorem Pattern.isCompletable_take_iff_slashes :
    ∃ diagnosis, Pattern.read "/a//b".toList = .error (.malformed diagnosis) ∧
      diagnosis.offset = 3 ∧
        (IsCompletable ("/a//b".toList.take diagnosis.offset.toNat) ↔
          ¬ IsMisplaced ("/a//b".toList.take diagnosis.offset.toNat)) := by
  have refused : Pattern.read "/a//b".toList =
      .error (.malformed
        { reason := some .doubleSlash
          expected := State.expected ⟨.path, some (.item .slash)⟩ false
          offset := 3
          pattern := "/a//b".toList
          badChar := none }) := by
    cbv
  exact ⟨_, refused, rfl, Pattern.isCompletable_take_iff refused⟩

/-- A capture right behind a capture is misplaced as soon as it has begun. -/
theorem isMisplaced_adjacent : IsMisplaced ['{', 'a', '}', '{', 'b'] := by
  have scanned : scanToken .initial ['{', 'a', '}'] =
      .ok (.capture { extent := .one, name := some ['a'] }, []) := by
    decide
  have reached := Reaches.start.whole rfl scanned (fun inLiteral => by cases inLiteral) rfl rfl
  show IsMisplaced (['{', 'a', '}'] ++ '{' :: ['b'])
  refine .capture reached rfl ?_ (by decide) fun empty => by cases empty
  rintro block ⟨next, stepped⟩
  cases stepped

/-- The fault of an open capture behind a capture is behind what can be completed. -/
theorem Pattern.not_isCompletable_take :
    let text : Text := ['{', 'a', '}', '{', 'b']
    ∃ diagnosis, Pattern.read text = .error (.malformed diagnosis) ∧
      ¬ IsCompletable (text.take diagnosis.offset.toNat) := by
  intro text
  have refused : Pattern.read text =
      .error (.malformed
        { reason := none
          expected := [.captureClose]
          offset := 5
          pattern := text
          badChar := none }) := by
    cbv
  exact ⟨_, refused, isMisplaced_adjacent.not_isCompletable⟩

end TypedRoutes
