import TypedRoutes.Pattern.Reading

/-!
Contract: what a level of a pattern's text reads as.

The reader of patterns keeps the levels that wait for a group to close on a stack. Here a group is
read as part of the level it stands on, so that what is read follows the tree of groups. Both come
to the same patterns: the stack is put aside while a level is read, and taken up where it ends.

Owns: the relation `Reads`, and that the reader accepts exactly what it derives.
-/

set_option autoImplicit false

namespace TypedRoutes.Pattern

def isGroupMark (c : Char) : Bool :=
  c = '(' || c = ')'

/-- `Reads inGroup state input elements final rest`: from a state, the text begins with elements of
one level and the groups in it; after them the level is in the state `final`, with `rest` left. -/
inductive Reads : Bool → State → Text → Pattern → State → Text → Prop where
  | done {inGroup : Bool} {state : State} {rest : Text} :
      Reads inGroup state rest .nil state rest
  | token {inGroup : Bool} {state next final : State} {c : Char} {input after rest : Text}
      {token : Token} {others : Pattern} (plain : isGroupMark c = false)
      (scanned : scanToken state (c :: input) = .ok (token, after))
      (unmarked : (inGroup && token.isPartMark) = false)
      (stepped : state.step (.item token) = .ok next)
      (remaining : Reads inGroup next after others final rest) :
      Reads inGroup state (c :: input) (.item token others) final rest
  | group {inGroup : Bool} {state opened inside next final : State} {input after rest : Text}
      {inner others : Pattern} (opening : state.step (.group .nil) = .ok opened)
      (within : Reads true state.enterGroup input inner inside (')' :: after))
      (nonempty : inner ≠ .nil) (stepped : state.step (.group inner) = .ok next)
      (remaining : Reads inGroup next after others final rest) :
      Reads inGroup state ('(' :: input) (.group inner others) final rest

/-- What is read on a level can be read in two goes. -/
theorem Reads.append {inGroup : Bool} {state middle final : State} {input between rest : Text}
    {first second : Pattern} (reads : Reads inGroup state input first middle between)
    (others : Reads inGroup middle between second final rest) :
    Reads inGroup state input (first ++ second) final rest := by
  induction reads with
  | done => exact others
  | token plain scanned unmarked stepped _ inductionHypothesis =>
    exact .token plain scanned unmarked stepped (inductionHypothesis others)
  | group opening within nonempty stepped _ _ inductionHypothesis =>
    exact .group opening within nonempty stepped (inductionHypothesis others)

/-! ## The reader follows the relation -/

def Level.extend (level : Level) (elements : Pattern) (state : State) : Level where
  elements := level.elements ++ elements
  state := state

theorem Level.extend_nil (level : Level) : level.extend .nil level.state = level := by
  simp [Level.extend]

theorem Level.extend_push (level : Level) (element : Element Token) (next final : State)
    (elements : Pattern) :
    (level.push element next).extend elements final =
      level.extend (Grouped.cons element elements) final := by
  cases element <;>
    simp [Level.extend, Level.push, Grouped.append_assoc, Grouped.single, Grouped.cons]

/-- A level that the reader takes a token into is one that the token may stand on. -/
theorem Level.take_eq_ok_iff {level next : Level} {token : Token} {inGroup : Bool} {input : Text} :
    level.take token inGroup input = .ok next ↔
      (inGroup && token.isPartMark) = false ∧
        ∃ state, level.state.step (.item token) = .ok state ∧
          level.push (.item token) state = next := by
  unfold Level.take
  cases marked : inGroup && token.isPartMark with
  | true => simp
  | false => cases level.state.step (.item token) <;> simp

theorem Frame.close_eq_ok_iff {frame : Frame} {inner : Pattern} {inGroup : Bool} {next : Level} :
    frame.close inner inGroup = .ok next ↔
      ∃ state, frame.outer.state.step (.group inner) = .ok state ∧
        frame.outer.push (.group inner) state = next := by
  unfold Frame.close
  cases frame.outer.state.step (.group inner) <;> simp

theorem readFrom_of_plain {frames : List Frame} {level : Level} {c : Char} {rest : Text}
    (plain : isGroupMark c = false) :
    readFrom frames level (c :: rest) = (do
      let (token, after) ← scanToken level.state (c :: rest)
      let next ← level.take token (!frames.isEmpty) (c :: rest)
      readFrom frames next after) := by
  simp only [isGroupMark, Bool.or_eq_false_iff, decide_eq_false_iff_not] at plain
  rw [readFrom]
  · split
    · rename_i refusal failed
      rw [failed]
      rfl
    · rename_i token after scanned
      rw [scanned]
      cases taken : level.take token (!frames.isEmpty) (c :: rest) with
      | error refusal => simp only [bind, Except.bind, taken]
      | ok next => simp only [bind, Except.bind, taken]
  · exact plain.1
  · exact fun _ same => plain.2 same
  · exact fun _ _ _ same => plain.2 same

theorem readFrom_token {frames : List Frame} {level : Level} {c : Char} {input after : Text}
    {token : Token} {next : State} (plain : isGroupMark c = false)
    (scanned : scanToken level.state (c :: input) = .ok (token, after))
    (unmarked : ((!frames.isEmpty) && token.isPartMark) = false)
    (stepped : level.state.step (.item token) = .ok next) :
    readFrom frames level (c :: input) =
      readFrom frames (level.push (.item token) next) after := by
  have taken : level.take token (!frames.isEmpty) (c :: input) =
      .ok (level.push (.item token) next) :=
    Level.take_eq_ok_iff.2 ⟨unmarked, next, stepped, rfl⟩
  rw [readFrom_of_plain plain, scanned]
  simp only [bind, Except.bind, taken]

theorem readFrom_open {frames : List Frame} {level : Level} {input : Text} {opened : State}
    (opening : level.state.step (.group .nil) = .ok opened) :
    readFrom frames level ('(' :: input) =
      readFrom (⟨level, '(' :: input⟩ :: frames) { state := level.state.enterGroup } input := by
  rw [readFrom, opening]

theorem readFrom_close {frame : Frame} {below : List Frame} {level : Level} {after : Text}
    {next : State} (nonempty : level.elements ≠ .nil)
    (stepped : frame.outer.state.step (.group level.elements) = .ok next) :
    readFrom (frame :: below) level (')' :: after) =
      readFrom below (frame.outer.push (.group level.elements) next) after := by
  rw [readFrom, if_neg nonempty, Frame.close_eq_ok_iff.2 ⟨next, stepped, rfl⟩]

/-- What a level reads as, the reader adds to the level, whatever is on the stack. -/
theorem Reads.readFrom_eq {inGroup : Bool} {state final : State} {input rest : Text}
    {elements : Pattern} (reads : Reads inGroup state input elements final rest)
    (frames : List Frame) (level : Level) (depth : inGroup = !frames.isEmpty)
    (current : level.state = state) :
    readFrom frames level input = readFrom frames (level.extend elements final) rest := by
  induction reads generalizing frames level with
  | done =>
    subst current
    rw [Level.extend_nil]
  | token plain scanned unmarked stepped _ inductionHypothesis =>
    subst depth current
    rw [readFrom_token plain scanned unmarked stepped, inductionHypothesis frames _ rfl rfl,
      Level.extend_push]
    rfl
  | group opening _ nonempty stepped _ withinHypothesis inductionHypothesis =>
    subst depth current
    rw [readFrom_open opening, withinHypothesis (_ :: frames) _ rfl rfl,
      readFrom_close nonempty stepped, inductionHypothesis frames _ rfl rfl]
    exact congrArg (readFrom frames · _) (Level.extend_push level _ _ _ _)

/-! ## The relation follows the reader -/

/-- Where the reading of a level ends: at the end of the text, or at the end of its group, which the
reader then takes into the level below. -/
def EndsWith (frames : List Frame) (level : Level) (rest : Text) (result : Pattern) : Prop :=
  match frames with
  | [] => rest = [] ∧ result = level.elements
  | frame :: below =>
    ∃ after next,
      rest = ')' :: after ∧ level.elements ≠ .nil ∧
        frame.outer.state.step (.group level.elements) = .ok next ∧
          readFrom below (frame.outer.push (.group level.elements) next) after = .ok result

/-- What is left after a level is no longer than what was there before it. -/
theorem Reads.length_le {inGroup : Bool} {state final : State} {input rest : Text}
    {elements : Pattern} (reads : Reads inGroup state input elements final rest) :
    rest.length ≤ input.length := by
  induction reads with
  | done => exact Nat.le_refl _
  | token _ scanned _ _ _ inductionHypothesis =>
    have shorter := scanToken_shorter scanned
    omega
  | group _ _ _ _ _ withinHypothesis inductionHypothesis =>
    simp only [List.length_cons] at *
    omega

/-- What the reader accepts is read on the level it stands on, and then further below. -/
theorem exists_reads_of_readFrom {frames : List Frame} {level : Level} {input : Text}
    {result : Pattern} (accepted : readFrom frames level input = .ok result) :
    ∃ elements final rest,
      Reads (!frames.isEmpty) level.state input elements final rest ∧
        EndsWith frames (level.extend elements final) rest result := by
  -- Behind a group the reader goes on with a text that no call of its own has left, so the
  -- induction is on the length of the text and not on the calls.
  induction size : input.length using Nat.strongRecOn generalizing frames level input with
  | ind size inductionHypothesis =>
    subst size
    unfold readFrom at accepted
    split at accepted
    · -- the end of the text, on the lowest level
      cases accepted
      exact ⟨.nil, level.state, [], .done, rfl, (Grouped.append_nil _).symm⟩
    · cases accepted
    · cases accepted
    · -- the end of a group
      rename_i after frame below
      split at accepted
      · cases accepted
      · rename_i nonempty
        split at accepted
        · cases accepted
        · rename_i outer closed
          obtain ⟨next, stepped, rfl⟩ := Frame.close_eq_ok_iff.1 closed
          refine ⟨.nil, level.state, ')' :: after, .done, after, next, rfl, ?_⟩
          rw [Level.extend_nil]
          exact ⟨nonempty, stepped, accepted⟩
    · -- the opening of a group
      rename_i after
      split at accepted
      · cases accepted
      · rename_i opened opening
        obtain ⟨inner, inside, rest, within, after', next, rfl, nonempty, stepped, further⟩ :=
          inductionHypothesis _ (by simp) accepted rfl
        have shorter := within.length_le
        obtain ⟨elements, final, left, remaining, ending⟩ :=
          inductionHypothesis _ (by simp only [List.length_cons] at *; omega) further rfl
        refine ⟨_, final, left, .group opening within nonempty stepped remaining, ?_⟩
        rwa [Level.extend_push] at ending
    · -- a token
      rename_i c after notOpen notClose notCloseBelow
      split at accepted
      · cases accepted
      · rename_i token left scanned
        split at accepted
        · cases accepted
        · rename_i next taken
          obtain ⟨unmarked, state, stepped, rfl⟩ := Level.take_eq_ok_iff.1 taken
          obtain ⟨elements, final, rest, remaining, ending⟩ :=
            inductionHypothesis _ (scanToken_shorter scanned) accepted rfl
          refine ⟨_, final, rest, .token ?_ scanned unmarked stepped remaining, ?_⟩
          · have notClosing : c ≠ ')' := by
              cases frames with
              | nil => exact notClose rfl
              | cons frame below => exact notCloseBelow frame below rfl
            have notOpening : c ≠ '(' := notOpen
            simp [isGroupMark, notOpening, notClosing]
          · rwa [Level.extend_push] at ending

theorem readFrom_of_read {text : Text} {pattern : Pattern}
    (accepted : Pattern.read text = .ok pattern) :
    readFrom [] {} text = .ok pattern := by
  unfold Pattern.read at accepted
  rw [mapError_eq_ok_iff] at accepted
  cases text with
  | nil => cases accepted
  | cons c rest => exact accepted

/-- The texts of patterns are the nonempty ones that a level outside of groups reads to the end. -/
theorem read_eq_ok_iff {text : Text} {pattern : Pattern} :
    Pattern.read text = .ok pattern ↔
      text ≠ [] ∧ ∃ final, Reads false .initial text pattern final [] := by
  have atStart : ∀ elements final, Level.extend {} elements final = ⟨elements, final⟩ :=
    fun _ _ => rfl
  cases text with
  | nil =>
    unfold Pattern.read
    rw [mapError_eq_ok_iff]
    simp
  | cons c rest =>
    have located : Pattern.read (c :: rest) = .ok pattern ↔
        readFrom [] {} (c :: rest) = .ok pattern :=
      mapError_eq_ok_iff
    rw [located]
    constructor
    · intro accepted
      obtain ⟨elements, final, left, reads, rfl, rfl⟩ := exists_reads_of_readFrom accepted
      exact ⟨List.cons_ne_nil c rest, final, reads⟩
    · rintro ⟨_, final, reads⟩
      rw [reads.readFrom_eq [] {} rfl rfl, atStart, readFrom]

end TypedRoutes.Pattern
