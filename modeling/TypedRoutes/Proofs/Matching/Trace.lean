import TypedRoutes.Matching.Run

/-!
Contract: what a match has used up of a route, piece by piece.

Programs and patterns are sequences of pieces: fixed text, captures and stops. A trace says for one
such sequence which groups were taken, what each capture took, and what text all of it comes to.
Captures in groups that were left out are part of a trace, without a text.

Owns: pieces, what a capture takes, what each instruction can do, traces, and that every run of a
program leaves a trace.
-/

set_option autoImplicit false

namespace TypedRoutes.Matching

open TypedRoutes.Text TypedRoutes.Pattern TypedRoutes.Program

/-- A piece of a route, as an item of a program or of a pattern asks for it. -/
inductive Piece where
  | fixed (text : Text)
  /-- Fixed text and the text of a capture behind it. -/
  | capture (ahead : Text) (block : Capture)
  | stop
deriving DecidableEq, Repr

def Piece.capture? : Piece → Option Capture
  | .capture _ block => some block
  | _ => none

/-- What a capture can take where some text is left behind it: an allowed text of as many segments
as it spans. Only a capture of any number of segments can be empty, and only at the end. -/
structure Takes (block : Capture) (text left : Text) : Prop where
  isAllowed : isAllowed false block.allowed text = true
  segments :
    ∃ (leading : List Text) (last : Text),
      text = Text.join ['/'] (leading ++ [last]) ∧
        leading.length = (block.segments - 1).toNat ∧
          (∀ segment ∈ leading, segment ≠ [] ∧ ∀ c ∈ segment, isCaptureChar false c = true) ∧
            (∀ c ∈ last, isCaptureChar block.isMany c = true) ∧
              (last = [] → block.isMany = true ∧ left = [])

/-- The captures that a sequence has, as pieces, each without a text. -/
def unfilled {α : Type} (piece : α → Piece) (sequence : Grouped α) :
    List (Capture × Option Text) :=
  (sequence.flatten.filterMap fun item => (piece item).capture?).map fun block => (block, none)

/-- `Trace piece sequence filled text left`: some groups of the sequence taken, its captures are
filled as given and all of it comes to the text, with some text left behind it. -/
inductive Trace {α : Type} (piece : α → Piece) :
    Grouped α → List (Capture × Option Text) → Text → Text → Prop where
  | nil {left : Text} : Trace piece .nil [] [] left
  | fixed {item : α} {others : Grouped α} {filled : List (Capture × Option Text)}
      {text more left : Text} (is : piece item = .fixed text)
      (remaining : Trace piece others filled more left) :
      Trace piece (.item item others) filled (text ++ more) left
  | capture {item : α} {others : Grouped α} {filled : List (Capture × Option Text)}
      {block : Capture} {ahead text more left : Text} (is : piece item = .capture ahead block)
      (takes : Takes block text (more ++ left)) (remaining : Trace piece others filled more left) :
      Trace piece (.item item others) ((block, some text) :: filled) (ahead ++ (text ++ more)) left
  | stop {item : α} {others : Grouped α} {filled : List (Capture × Option Text)} {more left : Text}
      (is : piece item = .stop) (ended : more ++ left = [])
      (remaining : Trace piece others filled more left) :
      Trace piece (.item item others) filled more left
  | taken {inner others : Grouped α} {first second : List (Capture × Option Text)}
      {text more left : Text} (within : Trace piece inner first text (more ++ left))
      (remaining : Trace piece others second more left) :
      Trace piece (.group inner others) (first ++ second) (text ++ more) left
  | skipped {inner others : Grouped α} {second : List (Capture × Option Text)} {more left : Text}
      (remaining : Trace piece others second more left) :
      Trace piece (.group inner others) (unfilled piece inner ++ second) more left

def entriesOf (filled : List (Capture × Option Text)) : List Entry :=
  filled.filterMap fun (block, text) => text.map fun text => ⟨block.name, text⟩

@[simp] theorem entriesOf_append (first second : List (Capture × Option Text)) :
    entriesOf (first ++ second) = entriesOf first ++ entriesOf second := by
  simp [entriesOf]

@[simp] theorem entriesOf_unfilled {α : Type} (piece : α → Piece) (sequence : Grouped α) :
    entriesOf (unfilled piece sequence) = [] := by
  simp [entriesOf, unfilled]

theorem unfilled_item {α : Type} (piece : α → Piece) (item : α) (rest : Grouped α) :
    unfilled piece (.item item rest) =
      (piece item).capture?.toList.map (fun block => (block, none)) ++ unfilled piece rest := by
  cases found : (piece item).capture? <;> simp [unfilled, Grouped.flatten, found]

theorem unfilled_group {α : Type} (piece : α → Piece) (inner rest : Grouped α) :
    unfilled piece (.group inner rest) = unfilled piece inner ++ unfilled piece rest := by
  simp [unfilled, Grouped.flatten]

/-- Every capture of the sequence has its place in a trace. -/
theorem Trace.captures_eq {α : Type} {piece : α → Piece} {sequence : Grouped α}
    {filled : List (Capture × Option Text)} {text left : Text}
    (trace : Trace piece sequence filled text left) :
    filled.map (·.1) = sequence.flatten.filterMap fun item => (piece item).capture? := by
  induction trace with
  | nil => rfl
  | fixed is _ inductionHypothesis =>
    simp [Grouped.flatten, is, Piece.capture?, inductionHypothesis]
  | capture is _ _ inductionHypothesis =>
    simp [Grouped.flatten, is, Piece.capture?, inductionHypothesis]
  | stop is _ _ inductionHypothesis =>
    simp [Grouped.flatten, is, Piece.capture?, inductionHypothesis]
  | taken _ _ withinHypothesis inductionHypothesis =>
    simp [Grouped.flatten, withinHypothesis, inductionHypothesis]
  | skipped _ inductionHypothesis =>
    simp [Grouped.flatten, unfilled, inductionHypothesis, Function.comp_def]

/-! ## Captures -/

theorem join_append_singleton {separator : Text} (leading : List Text) (last : Text) :
    Text.join separator (leading ++ [last]) = leading.flatMap (· ++ separator) ++ last := by
  induction leading with
  | nil => rfl
  | cons segment rest inductionHypothesis =>
    cases rest with
    | nil => simp [Text.join]
    | cons second others =>
      rw [List.cons_append, List.cons_append, Text.join]
      · rw [← List.cons_append, inductionHypothesis]
        simp
      · simp

theorem eq_of_leadingSegments? {count : Nat} {rest left : Text} {segments : List Text}
    (found : leadingSegments? count rest = some (segments, left)) :
    rest = segments.flatMap (· ++ ['/']) ++ left ∧ segments.length = count ∧
      ∀ segment ∈ segments, segment ≠ [] ∧ ∀ c ∈ segment, isCaptureChar false c = true := by
  induction count generalizing rest segments with
  | zero =>
    cases found
    exact ⟨rfl, rfl, by simp⟩
  | succ count inductionHypothesis =>
    unfold leadingSegments? at found
    dsimp only at found
    split at found
    · rename_i after dropped
      split at found
      · cases found
      · rename_i nonempty
        obtain ⟨⟨others, behind⟩, further, same⟩ := Option.map_eq_some_iff.1 found
        cases same
        obtain ⟨rfl, count, solid⟩ := inductionHypothesis further
        have whole := List.takeWhile_append_dropWhile (p := isCaptureChar false) (l := rest)
        refine ⟨?_, by simp [count], List.forall_mem_cons.2 ⟨⟨?_, ?_⟩, solid⟩⟩
        · rw [dropped] at whole
          rw [List.flatMap_cons, List.append_assoc, List.append_assoc]
          exact whole.symm
        · simpa using nonempty
        · exact List.all_eq_true.1 List.all_takeWhile
    · cases found

theorem le_runLength_iff {many : Bool} {rest : Text} {length : Nat} :
    length ≤ runLength many rest ↔
      length ≤ rest.length ∧ ∀ c ∈ rest.take length, isCaptureChar many c = true := by
  unfold runLength
  constructor
  · intro bounded
    have initial : rest.take length <+: rest.takeWhile (isCaptureChar many) :=
      List.prefix_of_prefix_length_le (List.take_prefix _ _) (List.takeWhile_prefix _)
        (Nat.le_trans (List.length_take_le _ _) bounded)
    refine ⟨Nat.le_trans bounded (List.takeWhile_prefix _).length_le, fun c member => ?_⟩
    exact List.all_eq_true.1 List.all_takeWhile c (initial.subset member)
  · rintro ⟨within, inside⟩
    have run : rest.takeWhile (isCaptureChar many) =
        rest.take length ++ (rest.drop length).takeWhile (isCaptureChar many) := by
      rw [← List.takeWhile_append_of_pos inside, List.take_append_drop]
    rw [run, List.length_append, List.length_take_of_le within]
    exact Nat.le_add_right _ _

/-- The last segment has only characters that it may hold, and is empty only at the end. -/
theorem length_of_segmentLength? {fold many : Bool} {stops : Stops} {cursor : Cursor} {length : Nat}
    (found : segmentLength? fold many stops cursor = some length) :
    length ≤ runLength many cursor.rest ∧ (length = 0 → many = true ∧ cursor.atEnd = true) := by
  have openEnd
      (opened : (if !stops.isOpen then none
        else if runLength many cursor.rest = 0 && !(many && cursor.atEnd) then none
        else some (runLength many cursor.rest)) = some length) :
      length ≤ runLength many cursor.rest ∧ (length = 0 → many = true ∧ cursor.atEnd = true) := by
    split at opened
    · cases opened
    · split at opened
      · cases opened
      · rename_i fine
        cases opened
        refine ⟨Nat.le_refl _, fun zero => ?_⟩
        simp only [zero, decide_true, Bool.true_and, Bool.not_eq_true', Bool.not_eq_false,
          Bool.and_eq_true] at fine
        exact fine
  unfold segmentLength? at found
  dsimp only at found
  split at found
  · split at found
    · rename_i bounds
      cases found
      exact ⟨bounds.2, fun zero => absurd zero (Nat.pos_iff_ne_zero.1 bounds.1)⟩
    · exact openEnd found
  · exact openEnd found

/-- What a capture takes, it takes off the start of the route: as many segments as it spans, with
slashes between them. Only the last one can be empty, where the route ends. -/
theorem segments_of_capture? {fold : Bool} {block : Capture} {stops : Stops} {cursor next : Cursor}
    {text : Text} (found : capture? fold block stops cursor = some (text, next)) :
    cursor.rest = text ++ next.rest ∧ next.past = cursor.past ∧
      isAllowed fold block.allowed text = true ∧
        ∃ (leading : List Text) (last : Text),
          text = Text.join ['/'] (leading ++ [last]) ∧
            leading.length = (block.segments - 1).toNat ∧
              (∀ segment ∈ leading, segment ≠ [] ∧ ∀ c ∈ segment, isCaptureChar false c = true) ∧
                (∀ c ∈ last, isCaptureChar block.isMany c = true) ∧
                  (last = [] → block.isMany = true ∧ next.atEnd = true) := by
  unfold capture? at found
  split at found
  · cases found
  · rename_i leading rest led
    dsimp only at found
    split at found
    · cases found
    · rename_i length measured
      split at found
      · rename_i allowed
        cases found
        obtain ⟨split, count, solid⟩ := eq_of_leadingSegments? led
        obtain ⟨bounded, empty⟩ := length_of_segmentLength? measured
        refine ⟨?_, rfl, allowed, leading, rest.take length, rfl, count, solid, ?_, ?_⟩
        · rw [join_append_singleton, List.append_assoc, List.take_append_drop, split]
        · exact (le_runLength_iff.1 bounded).2
        · intro nothing
          have zero : length = 0 := by
            rcases List.take_eq_nil_iff.1 nothing with zero | ended
            · exact zero
            · rw [ended] at bounded
              exact Nat.le_zero.1 bounded
          subst zero
          exact empty rfl
      · cases found

theorem takes_of_capture? {block : Capture} {stops : Stops} {cursor next : Cursor} {text : Text}
    (found : capture? false block stops cursor = some (text, next)) :
    cursor.rest = text ++ next.rest ∧ next.past = cursor.past ∧ Takes block text next.rest := by
  obtain ⟨split, past, allowed, leading, last, joined, count, solid, inside, empty⟩ :=
    segments_of_capture? found
  refine ⟨split, past, allowed, leading, last, joined, count, solid, inside, fun nothing => ?_⟩
  obtain ⟨many, ended⟩ := empty nothing
  simp only [Cursor.atEnd, Bool.and_eq_true, List.isEmpty_iff] at ended
  exact ⟨many, ended.1⟩

/-! ## Runs -/

def pieceOf : Instruction → Piece
  | .fixed text => .fixed text
  | .capture block => .capture [] block
  | .stop => .stop

theorem skip?_eq_some {text : Text} {cursor next : Cursor}
    (skipped : cursor.skip? false text = some next) :
    cursor.rest = text ++ next.rest ∧ next.past = cursor.past := by
  unfold Cursor.skip? at skipped
  simp only [Bool.false_eq_true, if_false] at skipped
  split at skipped
  · rename_i initial
    cases skipped
    obtain ⟨behind, whole⟩ := List.isPrefixOf_iff_prefix.1 initial
    rw [← whole]
    simp
  · cases skipped

/-! ### What one instruction can do -/

section Instructions

variable {fold : Bool} {program : Program} {cursor last : Cursor} {entries : List Entry}

theorem run_fixed_eq_some_iff {text : Text} {result : List Entry × Cursor} :
    run fold (.item (.fixed text) program) cursor = some result ↔
      ∃ next, cursor.skip? fold text = some next ∧ run fold program next = some result := by
  rw [run]
  cases cursor.skip? fold text <;> simp

theorem run_captured_eq_some_iff {block : Capture} :
    run fold (.item (.capture block) program) cursor = some (entries, last) ↔
      ∃ value next more, capture? fold block (stops program) cursor = some (value, next) ∧
        run fold program next = some (more, last) ∧ entries = ⟨block.name, value⟩ :: more := by
  rw [run]
  constructor
  · intro ran
    split at ran
    · cases ran
    · rename_i value next captured
      obtain ⟨⟨more, final⟩, further, same⟩ := Option.map_eq_some_iff.1 ran
      cases same
      exact ⟨value, next, more, captured, further, rfl⟩
  · rintro ⟨value, next, more, captured, further, rfl⟩
    rw [captured]
    dsimp only
    rw [further]
    rfl

theorem run_stop_eq_some_iff {result : List Entry × Cursor} :
    run fold (.item .stop program) cursor = some result ↔
      cursor.atEnd = true ∧ run fold program cursor = some result := by
  rw [run, Option.ite_none_right_eq_some]

theorem run_group_eq_some_iff {inner : Program} :
    run fold (.group inner program) cursor = some (entries, last) ↔
      run fold inner cursor = none ∧ run fold program cursor = some (entries, last) ∨
        ∃ first next more, run fold inner cursor = some (first, next) ∧
          run fold program next = some (more, last) ∧ entries = first ++ more := by
  rw [run]
  constructor
  · intro ran
    split at ran
    · rename_i missed
      exact .inl ⟨missed, ran⟩
    · rename_i first next within
      obtain ⟨⟨more, final⟩, further, same⟩ := Option.map_eq_some_iff.1 ran
      cases same
      exact .inr ⟨first, next, more, within, further, rfl⟩
  · rintro (⟨missed, further⟩ | ⟨first, next, more, within, further, rfl⟩)
    · rw [missed]
      exact further
    · rw [within]
      dsimp only
      rw [further]
      rfl

end Instructions

/-! ### Traces of runs -/

/-- Every run of a program leaves a trace, whose filled captures are its entries. -/
theorem exists_trace_of_run {program : Program} {cursor last : Cursor} {entries : List Entry}
    (ran : run false program cursor = some (entries, last)) :
    ∃ filled text, Trace pieceOf program filled text last.rest ∧
      cursor.rest = text ++ last.rest ∧ last.past = cursor.past ∧ entriesOf filled = entries := by
  induction program generalizing cursor last entries with
  | nil =>
    cases ran
    exact ⟨[], [], .nil, rfl, rfl, rfl⟩
  | item instruction rest inductionHypothesis =>
    cases instruction with
    | fixed text =>
      obtain ⟨next, skipped, further⟩ := run_fixed_eq_some_iff.1 ran
      obtain ⟨split, past⟩ := skip?_eq_some skipped
      obtain ⟨filled, more, trace, used, same, filledEntries⟩ := inductionHypothesis further
      refine ⟨filled, text ++ more, .fixed rfl trace, ?_, same.trans past, filledEntries⟩
      rw [split, used, List.append_assoc]
    | capture block =>
      obtain ⟨text, next, others, captured, further, rfl⟩ := run_captured_eq_some_iff.1 ran
      obtain ⟨split, past, takes⟩ := takes_of_capture? captured
      obtain ⟨filled, more, trace, used, samePast, rfl⟩ := inductionHypothesis further
      rw [used] at takes
      refine ⟨_, [] ++ (text ++ more), .capture rfl takes trace, ?_, samePast.trans past, rfl⟩
      rw [split, used, List.nil_append, List.append_assoc]
    | stop =>
      obtain ⟨ended, further⟩ := run_stop_eq_some_iff.1 ran
      obtain ⟨filled, more, trace, used, past, filledEntries⟩ := inductionHypothesis further
      simp only [Cursor.atEnd, Bool.and_eq_true, List.isEmpty_iff] at ended
      have nothing : more ++ last.rest = [] := used.symm.trans ended.1
      exact ⟨filled, more, .stop rfl nothing trace, used, past, filledEntries⟩
  | group inner rest innerHypothesis inductionHypothesis =>
    rcases run_group_eq_some_iff.1 ran with
      ⟨_, further⟩ | ⟨first, next, others, within, further, rfl⟩
    · obtain ⟨filled, more, trace, used, past, filledEntries⟩ := inductionHypothesis further
      exact ⟨_, more, .skipped trace, used, past, by simpa using filledEntries⟩
    · obtain ⟨firstFilled, text, innerTrace, innerUsed, innerPast, rfl⟩ := innerHypothesis within
      obtain ⟨filled, more, trace, used, past, rfl⟩ := inductionHypothesis further
      rw [used] at innerTrace innerUsed
      refine ⟨_, text ++ more, .taken innerTrace trace, ?_, past.trans innerPast, by simp⟩
      rw [innerUsed, List.append_assoc]

end TypedRoutes.Matching
