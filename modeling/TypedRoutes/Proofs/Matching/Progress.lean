import TypedRoutes.Matching.Matcher
import TypedRoutes.Proofs.Program.Assembly
import TypedRoutes.Success

/-!
Contract: a route that is a trace of a pattern is matched as it is traced.

The engine takes nothing back, so a capture has to end where its text does. It does if all that may
follow the capture is a mark that its text cannot hold, or the end of the route. A tolerated slash
stands only where the route goes on with another mark or not at all.

Owns: captures with a mark behind them, the text that such a capture takes, and the run.
-/

set_option autoImplicit false

namespace TypedRoutes.Matching

open TypedRoutes.Text TypedRoutes.Pattern TypedRoutes.Program

/-! ## Captures -/

theorem takeWhile_append_eq {p : Char → Bool} {text left : Text} (inside : ∀ c ∈ text, p c = true)
    (boundary : ∀ c ∈ left.head?, p c = false) :
    (text ++ left).takeWhile p = text := by
  rw [List.takeWhile_append_of_pos inside]
  cases left with
  | nil => simp
  | cons c rest => simp [boundary c rfl]

theorem leadingSegments?_eq_some {segments : List Text}
    (solid : ∀ segment ∈ segments, segment ≠ [] ∧ ∀ c ∈ segment, isCaptureChar false c = true)
    (left : Text) :
    leadingSegments? segments.length (segments.flatMap (· ++ ['/']) ++ left) =
      some (segments, left) := by
  induction segments with
  | nil => rfl
  | cons segment rest inductionHypothesis =>
    obtain ⟨⟨nonempty, inside⟩, others⟩ := List.forall_mem_cons.1 solid
    have split : (segment :: rest).flatMap (· ++ ['/']) ++ left =
        segment ++ '/' :: (rest.flatMap (· ++ ['/']) ++ left) := by
      simp
    have slash : isCaptureChar false '/' = false := rfl
    have taken : (segment ++ '/' :: (rest.flatMap (· ++ ['/']) ++ left)).takeWhile
        (isCaptureChar false) = segment :=
      takeWhile_append_eq inside (by simp [slash])
    have dropped : (segment ++ '/' :: (rest.flatMap (· ++ ['/']) ++ left)).dropWhile
        (isCaptureChar false) = '/' :: (rest.flatMap (· ++ ['/']) ++ left) := by
      rw [List.dropWhile_append_of_pos inside, List.dropWhile_cons_of_neg (by simp [slash])]
    rw [split, List.length_cons, leadingSegments?, taken, dropped]
    simp [nonempty, inductionHypothesis others]

/-- A text does not occur before a place if none of the characters before it is its first one. -/
theorem firstStop?_eq_some {mark : Char} {run text left : Text} (apart : mark ∉ text)
    (initial : mark :: run <+: left) :
    firstStop? false [mark :: run] (text ++ left) = some text.length := by
  unfold firstStop?
  have found : ([mark :: run].any (occursAt false left)) = true := by
    simpa [occursAt] using initial
  induction text with
  | nil =>
    rw [List.nil_append]
    cases left with
    | nil => simp at initial
    | cons c rest => rw [firstTail?, if_pos found, List.length_nil]
  | cons c rest inductionHypothesis =>
    rw [List.mem_cons, not_or] at apart
    have missed : ¬ ([mark :: run].any (occursAt false (c :: (rest ++ left)))) = true := by
      simp [occursAt, apart.1]
    rw [List.cons_append, firstTail?, if_neg missed, inductionHypothesis apart.2]
    rfl

theorem firstStop?_nil (fold : Bool) (text : Text) : firstStop? fold [] text = none := by
  unfold firstStop?
  induction text with
  | nil => rfl
  | cons c rest inductionHypothesis => simpa [firstTail?] using inductionHypothesis

/-- What follows a capture for the engine: the end, or a run of fixed text with a mark in front that
the capture cannot hold. -/
def AreClosing (block : Capture) (stops : Stops) (left : Text) : Prop :=
  (stops = ⟨[], true⟩ ∧ left = []) ∨
    ∃ mark run, stops = ⟨[mark :: run], false⟩ ∧ mark :: run <+: left ∧
      isCaptureChar block.isMany mark = false

theorem segmentLength?_eq_some {block : Capture} {stops : Stops} {last left : Text}
    (closing : AreClosing block stops left)
    (inside : ∀ c ∈ last, isCaptureChar block.isMany c = true)
    (empty : last = [] → block.isMany = true ∧ left = []) :
    segmentLength? false block.isMany stops { rest := last ++ left } = some last.length := by
  unfold segmentLength?
  dsimp only
  rcases closing with ⟨rfl, rfl⟩ | ⟨mark, run, rfl, initial, outside⟩
  · have longest : runLength block.isMany (last ++ []) = last.length := by
      rw [runLength, takeWhile_append_eq inside (by simp)]
    rw [firstStop?_nil, longest]
    by_cases ended : last = []
    · subst ended
      simp [(empty rfl).1, Cursor.atEnd]
    · simp [ended]
  · have apart : mark ∉ last := by
      intro member
      rw [inside mark member] at outside
      cases outside
    have nonempty : last ≠ [] := by
      intro ended
      rw [(empty ended).2] at initial
      simp at initial
    obtain ⟨further, rfl⟩ := initial
    have longest : runLength block.isMany (last ++ (mark :: run ++ further)) = last.length := by
      rw [runLength, takeWhile_append_eq inside (by simp [outside])]
    rw [firstStop?_eq_some apart (List.prefix_append _ _), longest]
    simp [List.length_pos_iff.2 nonempty]

theorem capture?_of_takes {block : Capture} {stops : Stops} {text left : Text}
    (takes : Takes block text left) (closing : AreClosing block stops left) :
    capture? false block stops { rest := text ++ left } = some (text, { rest := left }) := by
  obtain ⟨allowed, leading, last, joined, count, solid, inside, empty⟩ := takes
  have split : text ++ left = leading.flatMap (· ++ ['/']) ++ (last ++ left) := by
    rw [joined, join_append_singleton, List.append_assoc]
  unfold capture?
  rw [split, ← count, leadingSegments?_eq_some solid]
  dsimp only
  rw [segmentLength?_eq_some closing inside empty]
  dsimp only
  rw [List.take_left, List.drop_left, ← joined, if_pos allowed]

/-! ## Runs -/

/-- Whether a capture ends at the latest where such tokens follow: at a mark that its text cannot
hold, or at the end. -/
def closes (block : Capture) : Pattern → Bool
  | .nil => true
  | .item .question _ | .item .hash _ | .item .stop _ => true
  | .item .slash _ | .item .ampersand _ => !block.isMany
  | _ => false

/-- A pattern without groups in which each capture ends at a mark or at the end. -/
def IsDelimited : Pattern → Prop
  | .nil => True
  | .item token rest => (∀ block ∈ token.capture?, closes block rest = true) ∧ IsDelimited rest
  | .group _ _ => False

instance isDelimitedDecidable : DecidablePred IsDelimited
  | .nil => .isTrue trivial
  | .item token rest =>
    have := isDelimitedDecidable rest
    inferInstanceAs
      (Decidable ((∀ block ∈ token.capture?, closes block rest = true) ∧ IsDelimited rest))
  | .group _ _ => .isFalse id

/-- A run of fixed text that has begun stands at the front of the program. -/
theorem exists_fixed_of_assemble (slash marked : Bool) (text : Text) (pattern : Pattern) :
    ∃ more program,
      assemble slash marked (some text) pattern = .item (.fixed (text ++ more)) program := by
  have flushed (text : Text) (program : Program) :
      ∃ more behind, flush (some text) program = .item (.fixed (text ++ more)) behind :=
    ⟨[], program, by simp [flush]⟩
  induction pattern generalizing marked text with
  | nil => exact flushed text _
  | group inner rest => exact flushed text _
  | item token rest inductionHypothesis =>
    cases is : tokenPiece token with
    | fixed fixed =>
      obtain ⟨next, ⟨goesOn, begun⟩, ⟨later, same⟩ | ⟨_, _, same⟩⟩ :=
        exists_assemble_of_fixed is slash marked (some text) rest
      all_goals
        obtain ⟨whole, rfl⟩ := Option.isSome_iff_exists.1 (begun rfl)
        obtain rfl : whole = text ++ fixed := goesOn
        rw [same]
      · obtain ⟨more, program, same⟩ := inductionHypothesis later (text ++ fixed)
        exact ⟨fixed ++ more, program, by rw [same, List.append_assoc]⟩
      · exact ⟨fixed, _, rfl⟩
    | capture ahead block =>
      obtain ⟨next, ⟨goesOn, begun⟩, same⟩ :=
        exists_assemble_of_capture is slash marked (some text) rest
      obtain ⟨whole, rfl⟩ := Option.isSome_iff_exists.1 (begun rfl)
      obtain rfl : whole = text ++ ahead := goesOn
      rw [same]
      exact ⟨ahead, _, rfl⟩
    | stop =>
      obtain rfl := eq_stop_of_tokenPiece is
      exact flushed text _

theorem skip?_self (fold : Bool) (text left : Text) :
    Cursor.skip? fold text { rest := text ++ left } = some { rest := left } := by
  cases fold <;> simp [Cursor.skip?]

theorem run_flush {fold : Bool} (text : Option Text) (program : Program) (left : Text) :
    run fold (flush text program) { rest := text.getD [] ++ left } =
      run fold program { rest := left } := by
  cases text with
  | none => rfl
  | some fixed => simp [flush, run, skip?_self]

theorem exists_of_fixed {token : Token} {others : Pattern} {filled : List (Capture × Option Text)}
    {fixed text left : Text} (is : tokenPiece token = .fixed fixed)
    (trace : Trace tokenPiece (.item token others) filled text left) :
    ∃ more, text = fixed ++ more ∧ Trace tokenPiece others filled more left := by
  cases trace with
  | fixed same remaining =>
    rw [is] at same
    cases same
    exact ⟨_, rfl, remaining⟩
  | capture same =>
    rw [is] at same
    cases same
  | stop same =>
    rw [is] at same
    cases same

/-- An optional slash is taken where the route has one, and passed over elsewhere. -/
theorem run_optionalSlash_iff {program : Program} {left : Text} {result : List Entry × Cursor} :
    run false (optionalSlash program) { rest := left } = some result ↔
      (∃ behind, left = '/' :: behind ∧ run false program { rest := behind } = some result) ∨
        left.head? ≠ some '/' ∧ run false program { rest := left } = some result := by
  cases left with
  | nil =>
    have missed : run false (optionalSlash program) { rest := [] } =
        run false program { rest := [] } := rfl
    simp [missed]
  | cons c rest =>
    by_cases slash : c = '/'
    · subst slash
      have taken : run false (optionalSlash program) { rest := '/' :: rest } =
          run false program { rest } := by
        simp [optionalSlash, run, Cursor.skip?]
      simp [taken]
    · have other : ¬ '/' = c := fun same => slash same.symm
      have missed : run false (optionalSlash program) { rest := c :: rest } =
          run false program { rest := c :: rest } := by
        simp [optionalSlash, run, Cursor.skip?, other]
      simp [missed, slash]

/-- A mark of the query or of the fragment is not passed as a slash. -/
theorem skip?_slash_of_mark {mark : Char} (is : mark = '?' ∨ mark = '#') (fold : Bool)
    (behind : Text) :
    Cursor.skip? fold ['/'] { rest := mark :: behind } = none := by
  have apart : '/' ≠ mark ∧ lowercase [mark] ≠ lowercase ['/'] := by
    rcases is with rfl | rfl <;> decide
  cases fold with
  | true => simp [Cursor.skip?, apart.2]
  | false => simp [Cursor.skip?, apart.1]

/-- Where a path may end, the route does not go on with a slash. -/
theorem run_optionalSlash {pattern : Pattern} {filled : List (Capture × Option Text)} {text : Text}
    (ends : endsPath pattern = true) (trace : Trace tokenPiece pattern filled text [])
    (program : Program) :
    run false (optionalSlash program) { rest := text } = run false program { rest := text } := by
  have missed : ['/'].isPrefixOf text = false := by
    cases pattern with
    | nil =>
      cases trace
      rfl
    | group => cases ends
    | item token rest =>
      cases token with
      | question =>
        obtain ⟨more, rfl, _⟩ := exists_of_fixed rfl trace
        rfl
      | hash =>
        obtain ⟨more, rfl, _⟩ := exists_of_fixed rfl trace
        rfl
      | _ => cases ends
  simp [optionalSlash, run, Cursor.skip?, missed]

/-- Behind a capture that such tokens close, the engine finds its end. -/
theorem areClosing_of_closes {slash marked : Bool} {block : Capture} {pattern : Pattern}
    {filled : List (Capture × Option Text)} {text : Text} {result : List Entry × Cursor}
    (closed : closes block pattern = true) (trace : Trace tokenPiece pattern filled text [])
    (ran : run false (assemble slash marked none pattern) { rest := text } = some result) :
    AreClosing block (stops (assemble slash marked none pattern)) text := by
  have atMark {mark : Char} {later : Bool} {others : Pattern}
      (assembled : assemble slash marked none pattern = assemble slash later (some [mark]) others)
      (outside : isCaptureChar block.isMany mark = false) :
      AreClosing block (stops (assemble slash marked none pattern)) text := by
    obtain ⟨more, program, same⟩ := exists_fixed_of_assemble slash later [mark] others
    rw [assembled, same] at ran ⊢
    refine .inr ⟨mark, more, rfl, ?_, outside⟩
    obtain ⟨next, skipped, _⟩ := run_fixed_eq_some_iff.1 ran
    exact ⟨next.rest, (skip?_eq_some skipped).1.symm⟩
  cases pattern with
  | nil =>
    cases trace
    exact .inl ⟨rfl, rfl⟩
  | group => cases closed
  | item token rest =>
    cases token with
    | question => exact atMark rfl (by cases block.isMany <;> rfl)
    | hash => exact atMark rfl (by cases block.isMany <;> rfl)
    | ampersand => exact atMark rfl (by cases block.isMany <;> rfl)
    | slash =>
      have single : block.isMany = false := by simpa [closes] using closed
      exact atMark rfl (by rw [single]; rfl)
    | stop =>
      cases trace with
      | stop is ended remaining => exact .inl ⟨rfl, by simpa using ended⟩
      | fixed is => cases is
      | capture is => cases is
    | _ => cases closed

/-- The engine goes the way of a trace to the end of the route. -/
theorem run_of_trace {pattern : Pattern} {filled : List (Capture × Option Text)} {text : Text}
    (delimited : IsDelimited pattern) (trace : Trace tokenPiece pattern filled text [])
    (slash marked : Bool) (begun : Option Text) :
    run false (assemble slash marked begun pattern) { rest := begun.getD [] ++ text } =
      some (entriesOf filled, { rest := [] }) := by
  induction pattern generalizing marked begun filled text with
  | nil =>
    cases trace
    rw [assemble, run_flush]
    rfl
  | group inner rest => cases delimited
  | item token rest inductionHypothesis =>
    obtain ⟨closed, later⟩ := delimited
    cases trace with
    | @fixed _ _ _ fixed more _ is remaining =>
      obtain ⟨next, ⟨goesOn, _⟩, ⟨_, same⟩ | ⟨_, ends, same⟩⟩ :=
        exists_assemble_of_fixed is slash marked begun rest
      · rw [same, ← List.append_assoc, ← goesOn]
        exact inductionHypothesis later remaining _ next
      · rw [same, ← List.append_assoc, ← goesOn, run_flush, run_optionalSlash ends remaining]
        exact inductionHypothesis later remaining marked none
    | @capture _ _ filled block ahead text more _ is takes remaining =>
      have further : run false (assemble slash marked none rest) { rest := more } =
          some (entriesOf filled, { rest := [] }) :=
        inductionHypothesis later remaining marked none
      have own : token.capture? = some block := by
        rw [← capture?_tokenPiece, is]
        rfl
      have closing := areClosing_of_closes (closed block own) remaining further
      rw [List.append_nil] at takes
      obtain ⟨next, ⟨goesOn, _⟩, same⟩ := exists_assemble_of_capture is slash marked begun rest
      rw [same, ← List.append_assoc, ← goesOn, run_flush, run, capture?_of_takes takes closing]
      dsimp only
      rw [further]
      rfl
    | stop is ended remaining =>
      obtain rfl := eq_stop_of_tokenPiece is
      rw [List.append_nil] at ended
      subst ended
      rw [assemble, run_flush]
      exact inductionHypothesis later remaining marked none

/-- A matcher for the whole route matches what is a trace of its pattern, whether it tolerates a
slash or not. -/
theorem verdict_of_trace {matcher : Matcher} {filled : List (Capture × Option Text)} {text : Text}
    (compiled : Matcher.compile matcher.text matcher.settings = .ok matcher)
    (sensitive : matcher.settings.caseInsensitive = false) (delimited : IsDelimited matcher.pattern)
    (trace : Trace tokenPiece matcher.pattern filled text []) :
    matcher.verdict text = .matched ⟨entriesOf filled⟩ := by
  obtain ⟨pattern, _, same⟩ := map_eq_ok_iff.1 compiled
  have program :
      matcher.program = assemble (!matcher.settings.strict) false none matcher.pattern := by
    rw [← same]
    rfl
  have ran :
      run false matcher.program { rest := text } = some (entriesOf filled, { rest := [] }) := by
    rw [program]
    exact run_of_trace delimited trace (!matcher.settings.strict) false none
  unfold Matcher.verdict Matcher.start
  rw [sensitive, ran]
  simp [Cursor.atEnd]

/-- A match that uses up the whole route leaves a trace of the pattern. -/
theorem exists_trace_of_verdict {matcher : Matcher} {text : Text} {captures : Captures}
    (compiled : Matcher.compile matcher.text matcher.settings = .ok matcher)
    (settings : matcher.settings = ⟨true, true, false⟩)
    (matched : matcher.verdict text = .matched captures) :
    ∃ filled, Trace tokenPiece matcher.pattern filled text [] ∧ captures = ⟨entriesOf filled⟩ := by
  obtain ⟨pattern, _, same⟩ := map_eq_ok_iff.1 compiled
  have program : matcher.program = assemble false false none matcher.pattern := by
    rw [← same, settings]
    rfl
  unfold Matcher.verdict Matcher.start at matched
  rw [settings, program] at matched
  split at matched
  · cases matched
  · rename_i entries last ran
    obtain ⟨filled, used, trace, split, _, rfl⟩ := exists_trace_of_run ran
    split at matched
    · cases matched
    · rename_i ended
      cases matched
      simp only [Bool.true_and, Bool.not_eq_true', Bool.not_eq_false, Cursor.atEnd,
        Bool.and_eq_true, List.isEmpty_iff] at ended
      obtain ⟨more, same, ofPattern⟩ := trace_of_assemble trace
      rw [ended.1] at ofPattern split
      have whole : text = more := by simpa [same] using split
      exact ⟨filled, whole ▸ ofPattern, rfl⟩

end TypedRoutes.Matching
