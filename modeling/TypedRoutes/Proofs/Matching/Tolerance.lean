import TypedRoutes.Proofs.Matching.Cutting
import TypedRoutes.Proofs.Matching.Stopping
import TypedRoutes.Proofs.Program.Tolerance

/-!
Contract: what a match without tolerated slashes becomes with them.

The engine chooses the end of a capture once and for all, and a tolerated slash can move it. Fixed
text that ends with the path is cut before the mark, so it may be found earlier; before groups that
come last a slash is one more stop. A match of a whole route is kept, entry for entry, exactly if
all captures of the path in front of its groups keep their ends.

Owns: when a capture keeps its end, and the comparison of both runs.
-/

set_option autoImplicit false

namespace TypedRoutes.Matching

open TypedRoutes.Text TypedRoutes.Pattern TypedRoutes.Program

/-! ## Values that are kept -/

/-- The value that a capture takes from a route stays what it is where slashes are tolerated. -/
structure KeepsValue (block : Capture) (rest : Pattern) (route value : Text) : Prop where
  /-- Fixed text up to the end of the path is not found in the last segment already. -/
  beforeMark : ∀ run ∈ runToMark? rest, IsFirstBehind (lastSegment block value) run
  /-- A value of many segments before groups that come last has no slash, or it is all that can be
  taken while a stop stands at its start. -/
  beforeGroups :
    endsInGroups rest = true → block.isMany = true → '/' ∈ value →
      value = route.takeWhile (isCaptureChar true) ∧
        ∃ stop ∈ (stops (ofPattern false rest)).texts ++ [['/']], stop <+: route

/-- All captures of the path in front of its groups keep their values on a route. -/
def KeepsValues : Pattern → Text → List Text → Prop
  | .nil, _, _ | .group _ _, _, _ => True
  | .item token rest, route, values =>
    startsWithMark (.item token .nil) = true ∨
      match tokenPiece token with
      | .fixed text => KeepsValues rest (route.drop text.length) values
      | .capture ahead block =>
        KeepsValue block rest (route.drop ahead.length) (values.headD []) ∧
          KeepsValues rest (route.drop (ahead ++ values.headD []).length) values.tail
      | .stop => True

/-! ## Runs of fixed text -/

theorem Cursor.eq_of_past {cursor : Cursor} (past : cursor.past = 0) :
    cursor = { rest := cursor.rest } := by
  obtain ⟨rest, steps⟩ := cursor
  cases past
  rfl

/-- A comparison with regard to case never goes past the end. -/
theorem Cursor.eq_of_run {program : Program} {text : Text} {entries : List Entry} {last : Cursor}
    (ran : run false program { rest := text } = some (entries, last)) :
    last = { rest := last.rest } := by
  obtain ⟨_, _, _, _, past, _⟩ := exists_trace_of_run ran
  exact Cursor.eq_of_past past

theorem skip?_append (begun text left : Text) :
    Cursor.skip? false (begun ++ text) { rest := begun ++ left } =
      Cursor.skip? false text { rest := left } := by
  have same : (begun ++ text).isPrefixOf (begun ++ left) = text.isPrefixOf left := by
    rw [Bool.eq_iff_iff, List.isPrefixOf_iff_prefix, List.isPrefixOf_iff_prefix,
      List.prefix_append_right_inj]
  simp [Cursor.skip?, same, Nat.add_sub_add_left]

theorem run_flush_append (begun text left : Text) (program : Program) :
    run false (flush (some (begun ++ text)) program) { rest := begun ++ left } =
      run false (flush (some text) program) { rest := left } := by
  show run false (.item (.fixed (begun ++ text)) program) _ =
    run false (.item (.fixed text) program) _
  rw [run, run, skip?_append]

/-- A run that has begun is the front of one instruction, so the engine has passed it or not before
it goes on with the rest of that instruction. -/
theorem run_assemble_append {pattern : Pattern} (sound : ∀ token ∈ pattern.flatten, token.IsSound)
    (slash marked : Bool) (begun text left : Text) :
    run false (assemble slash marked (some (begun ++ text)) pattern) { rest := begun ++ left } =
      run false (assemble slash marked (some text) pattern) { rest := left } := by
  induction pattern generalizing marked text with
  | nil => exact run_flush_append begun text left _
  | group inner rest => exact run_flush_append begun text left _
  | item token rest inductionHypothesis =>
    obtain ⟨own, others⟩ := List.forall_mem_cons.1 sound
    cases is : tokenPiece token with
    | fixed fixed =>
      have whole : extend (some (begun ++ text)) fixed = some (begun ++ (text ++ fixed)) := by
        simp [extend]
      rw [assemble_of_fixed own is, assemble_of_fixed own is, whole]
      by_cases tolerant : (slash && isTolerant marked token rest) = true
      · rw [if_pos tolerant, if_pos tolerant]
        exact run_flush_append begun (text ++ fixed) left _
      · rw [if_neg tolerant, if_neg tolerant]
        exact inductionHypothesis others (isMarkedBy marked token) (text ++ fixed)
    | capture ahead block =>
      rw [assemble_some_of_capture is, assemble_some_of_capture is, List.append_assoc]
      exact run_flush_append begun (text ++ ahead) left _
    | stop =>
      obtain rfl := eq_stop_of_tokenPiece is
      exact run_flush_append begun text left _

theorem run_assemble_some {pattern : Pattern} (sound : ∀ token ∈ pattern.flatten, token.IsSound)
    (slash marked : Bool) (begun left : Text) :
    run false (assemble slash marked (some begun) pattern) { rest := begun ++ left } =
      run false (assemble slash marked none pattern) { rest := left } := by
  cases pattern with
  | nil => exact run_flush (some begun) _ left
  | group inner rest => exact run_flush (some begun) _ left
  | item token rest =>
    have passed := run_assemble_append sound slash marked begun [] left
    have own := (List.forall_mem_cons.1 sound).1
    rw [List.append_nil] at passed
    cases is : tokenPiece token with
    | fixed fixed => rw [passed, assemble_none_of_fixed own is]
    | capture ahead block =>
      cases token with
      | capture => exact run_flush (some begun) _ left
      | pair key value =>
        cases value with
        | capture => exact passed
        | literal => cases is
      | _ => cases is
    | stop =>
      obtain rfl := eq_stop_of_tokenPiece is
      exact run_flush (some begun) _ left

/-! ## Both runs -/

theorem exists_of_run_flush {begun : Option Text} {program : Program} {text : Text}
    {result : List Entry × Cursor}
    (ran : run false (flush begun program) { rest := text } = some result) :
    ∃ left, text = begun.getD [] ++ left ∧ run false program { rest := left } = some result := by
  cases begun with
  | none => exact ⟨text, rfl, ran⟩
  | some fixed =>
    obtain ⟨next, skipped, further⟩ := run_fixed_eq_some_iff.1 ran
    obtain ⟨split, past⟩ := skip?_eq_some skipped
    have whole : next = { rest := next.rest } := Cursor.eq_of_past past
    exact ⟨next.rest, split, whole ▸ further⟩

/-- A program goes through fixed text exactly if the route begins with it and the program of what is
behind it goes through the rest. -/
theorem run_assemble_fixed_iff {slash marked : Bool} {token : Token} {rest : Pattern}
    {fixed text : Text} {result : List Entry × Cursor}
    (sound : ∀ item ∈ Grouped.flatten (.item token rest), item.IsSound)
    (is : tokenPiece token = .fixed fixed) :
    run false (assemble slash marked none (.item token rest)) { rest := text } = some result ↔
      ∃ left, text = fixed ++ left ∧
        run false
          (if slash && isTolerant marked token rest then
            optionalSlash (assemble slash marked none rest)
          else assemble slash (isMarkedBy marked token) none rest) { rest := left } =
            some result := by
  obtain ⟨own, others⟩ := List.forall_mem_cons.1 sound
  rw [assemble_of_fixed own is]
  by_cases tolerant : (slash && isTolerant marked token rest) = true
  · simp only [if_pos tolerant]
    constructor
    · exact exists_of_run_flush
    · rintro ⟨left, rfl, further⟩
      exact (run_flush (some fixed) _ left).trans further
  · simp only [if_neg tolerant]
    constructor
    · intro ran
      obtain ⟨more, program, same⟩ :=
        exists_fixed_of_assemble slash (isMarkedBy marked token) fixed rest
      have begins : run false (.item (.fixed (fixed ++ more)) program) { rest := text } =
          some result := by
        rw [← same]
        exact ran
      obtain ⟨next, skipped, _⟩ := run_fixed_eq_some_iff.1 begins
      have split := (skip?_eq_some skipped).1
      rw [List.append_assoc] at split
      obtain rfl : text = fixed ++ (more ++ next.rest) := split
      exact ⟨_, rfl, (run_assemble_some others slash _ fixed _).symm.trans ran⟩
    · rintro ⟨left, rfl, further⟩
      exact (run_assemble_some others slash _ fixed left).trans further

/-- Fixed text that has been matched is passed by the program without tolerated slashes. -/
theorem exists_of_run_fixed {token : Token} {rest : Pattern} {fixed text : Text} {marked : Bool}
    {result : List Entry × Cursor}
    (sound : ∀ item ∈ Grouped.flatten (.item token rest), item.IsSound)
    (is : tokenPiece token = .fixed fixed)
    (ran : run false (assemble false marked none (.item token rest)) { rest := text } =
      some result) :
    ∃ left, text = fixed ++ left ∧
      run false (assemble false (isMarkedBy marked token) none rest) { rest := left } =
        some result :=
  (run_assemble_fixed_iff sound is).1 ran

theorem exists_trace_of_run_assemble {marked : Bool} {pattern : Pattern} {text : Text}
    {entries : List Entry}
    (ran : run false (assemble false marked none pattern) { rest := text } =
      some (entries, { rest := [] })) :
    ∃ filled, Trace tokenPiece pattern filled text [] := by
  obtain ⟨filled, used, trace, split, _, _⟩ := exists_trace_of_run ran
  obtain ⟨more, same, ofPattern⟩ := trace_of_assemble trace
  have whole : text = more := by simpa [same] using split
  exact ⟨filled, whole ▸ ofPattern⟩

/-- Fixed text that has been matched is passed by the program with tolerated slashes as well, and a
slash behind it finds nothing. -/
theorem run_tolerant_fixed {token : Token} {rest : Pattern} {fixed left : Text} {marked : Bool}
    {entries : List Entry} (sound : ∀ item ∈ Grouped.flatten (.item token rest), item.IsSound)
    (is : tokenPiece token = .fixed fixed)
    (ran : run false (assemble false (isMarkedBy marked token) none rest) { rest := left } =
      some (entries, { rest := [] })) :
    run false (assemble true marked none (.item token rest)) { rest := fixed ++ left } =
      run false (assemble true (isMarkedBy marked token) none rest) { rest := left } := by
  obtain ⟨own, others⟩ := List.forall_mem_cons.1 sound
  rw [assemble_of_fixed own is, Bool.true_and]
  by_cases tolerant : isTolerant marked token rest = true
  · obtain ⟨filled, trace⟩ := exists_trace_of_run_assemble ran
    rw [if_pos tolerant, isMarkedBy_of_isTolerant tolerant]
    have ends : endsPath rest = true := (Bool.and_eq_true_iff.1 tolerant).2
    exact (run_flush (extend none fixed) _ left).trans (run_optionalSlash ends trace _)
  · rw [if_neg tolerant]
    exact run_assemble_some others true (isMarkedBy marked token) fixed left

theorem exists_of_run_capture {slash marked : Bool} {token : Token} {rest : Pattern}
    {ahead text : Text} {block : Capture} {entries : List Entry} {last : Cursor}
    (is : tokenPiece token = .capture ahead block)
    (ran : run false (assemble slash marked none (.item token rest)) { rest := text } =
      some (entries, last)) :
    ∃ value left more, text = ahead ++ (value ++ left) ∧ entries = ⟨block.name, value⟩ :: more ∧
      capture? false block (stops (assemble slash marked none rest)) { rest := value ++ left } =
        some (value, { rest := left }) ∧
        run false (assemble slash marked none rest) { rest := left } = some (more, last) := by
  obtain ⟨next, ⟨begun, _⟩, same⟩ := exists_assemble_of_capture is slash marked none rest
  rw [same] at ran
  obtain ⟨behind, rfl, capturing⟩ := exists_of_run_flush ran
  have begun : next.getD [] = ahead := begun
  rw [begun]
  obtain ⟨value, cursor, more, captured, further, rfl⟩ := run_captured_eq_some_iff.1 capturing
  obtain ⟨split, past, _⟩ := takes_of_capture? captured
  have split : behind = value ++ cursor.rest := split
  have whole : cursor = { rest := cursor.rest } := Cursor.eq_of_past past
  rw [whole] at captured further
  subst split
  exact ⟨value, cursor.rest, more, rfl, rfl, captured, further⟩

theorem run_capture {token : Token} {ahead : Text} {block : Capture}
    (is : tokenPiece token = .capture ahead block) (slash marked : Bool) (rest : Pattern)
    (left : Text) :
    run false (assemble slash marked none (.item token rest)) { rest := ahead ++ left } =
      run false (.item (.capture block) (assemble slash marked none rest)) { rest := left } := by
  obtain ⟨next, ⟨begun, _⟩, same⟩ := exists_assemble_of_capture is slash marked none rest
  have begun : next.getD [] = ahead := begun
  rw [same, ← begun]
  exact run_flush next _ left

/-- A route that is cut at a capture goes through exactly if the capture takes its value there, and
what is behind it goes through. -/
theorem run_capture_eq_some_iff {slash marked : Bool} {token : Token} {rest : Pattern}
    {ahead value left : Text} {block : Capture} {more : List Entry} {last : Cursor}
    (is : tokenPiece token = .capture ahead block) :
    run false (assemble slash marked none (.item token rest)) { rest := ahead ++ (value ++ left) } =
        some (⟨block.name, value⟩ :: more, last) ↔
      capture? false block (stops (assemble slash marked none rest)) { rest := value ++ left } =
          some (value, { rest := left }) ∧
        run false (assemble slash marked none rest) { rest := left } = some (more, last) := by
  constructor
  · intro ran
    obtain ⟨_, behind, _, split, listed, captured, further⟩ := exists_of_run_capture is ran
    cases listed
    have same : left = behind := by simpa using split
    subst same
    exact ⟨captured, further⟩
  · rintro ⟨captured, further⟩
    rw [run_capture is, run_captured_eq_some_iff]
    exact ⟨value, _, more, captured, further, rfl⟩

/-- Behind groups that come last the end has been reached, so a slash finds nothing there. -/
theorem run_tolerant_behind {marked : Bool} {rest : Pattern} {left : Text} {entries : List Entry}
    (ran : run false (assemble false marked none rest) { rest := left } =
      some (entries, { rest := [] }))
    (program : Program) :
    run false (if true && rest.isEmpty then optionalSlash program else program) { rest := left } =
      run false program { rest := left } := by
  cases rest with
  | nil =>
    obtain ⟨filled, trace⟩ := exists_trace_of_run_assemble ran
    exact run_optionalSlash rfl trace program
  | item => rfl
  | group => rfl

/-- A capture takes the same before what is untouched, unless it is one of many segments and groups
come last. -/
theorem capture?_of_isUntouched {block : Capture} {rest : Pattern} {marked : Bool}
    {text value : Text} {next : Cursor} (sound : ∀ token ∈ rest.flatten, token.IsSound)
    (untouched : IsUntouched rest) (single : block.isMany = true → endsInGroups rest = false)
    (captured : capture? false block (stops (assemble false marked none rest)) { rest := text } =
      some (value, next)) :
    capture? false block (stops (assemble true marked none rest)) { rest := text } =
      some (value, next) := by
  cases widens_of_isUntouched sound untouched with
  | same _ _ equal =>
    rw [equal]
    exact captured
  | shorter found =>
    rw [runToMark?_eq_none untouched] at found
    cases found
  | slash _ ends opened wider =>
    rw [opened] at captured
    rw [wider, capture?_slash_iff captured]
    intro many
    rw [single many] at ends
    cases ends

/-- Where no stop that matters is changed, tolerated slashes change nothing. -/
theorem run_of_isUntouched {pattern : Pattern} {marked : Bool} {text : Text} {entries : List Entry}
    (sound : ∀ token ∈ pattern.flatten, token.IsSound) (untouched : IsUntouched pattern)
    (ran : run false (assemble false marked none pattern) { rest := text } =
      some (entries, { rest := [] })) :
    run false (assemble true marked none pattern) { rest := text } =
      some (entries, { rest := [] }) := by
  induction pattern generalizing marked text entries with
  | nil => exact ran
  | item token rest inductionHypothesis =>
    obtain ⟨_, single, restUntouched⟩ := untouched
    have others := (List.forall_mem_cons.1 sound).2
    cases is : tokenPiece token with
    | fixed fixed =>
      obtain ⟨left, rfl, further⟩ := exists_of_run_fixed sound is ran
      rw [run_tolerant_fixed sound is further]
      exact inductionHypothesis others restUntouched further
    | capture ahead block =>
      have own : block ∈ token.capture? := by
        rw [← capture?_tokenPiece, is]
        rfl
      obtain ⟨value, left, more, rfl, rfl, captured, further⟩ := exists_of_run_capture is ran
      have behind := inductionHypothesis others restUntouched further
      have again := capture?_of_isUntouched others restUntouched (single block own) captured
      exact (run_capture_eq_some_iff is).2 ⟨again, behind⟩
    | stop =>
      obtain rfl := eq_stop_of_tokenPiece is
      have ran : run false (.item .stop (assemble false marked none rest)) { rest := text } =
          some (entries, { rest := [] }) := ran
      show run false (.item .stop (assemble true marked none rest)) { rest := text } = _
      rw [run_stop_eq_some_iff] at ran ⊢
      exact ⟨ran.1, inductionHypothesis others restUntouched ran.2⟩
  | group inner rest _ inductionHypothesis =>
    have others : ∀ token ∈ rest.flatten, token.IsSound :=
      fun token member => sound token (List.mem_append_right _ member)
    have restUntouched : IsUntouched rest := untouched
    simp only [assemble, flush, Bool.false_and, Bool.false_eq_true, if_false] at ran ⊢
    rw [run_group_eq_some_iff] at ran ⊢
    rcases ran with ⟨missed, further⟩ | ⟨first, next, more, within, further, rfl⟩
    · left
      rw [run_tolerant_behind further]
      exact ⟨missed, inductionHypothesis others restUntouched further⟩
    · right
      refine ⟨first, next, more, within, ?_, rfl⟩
      have whole : next = { rest := next.rest } := Cursor.eq_of_run within
      rw [whole] at further ⊢
      rw [run_tolerant_behind further, inductionHypothesis others restUntouched further]

/-! ## Paths -/

/-- A capture takes the same with the stops of both programs exactly if its value is kept. -/
theorem capture?_tolerant_iff {block : Capture} {rest : Pattern} {tolerant : Stops}
    {text value : Text} {next : Cursor}
    (widens : Widens rest (stops (ofPattern false rest)) tolerant)
    (captured : capture? false block (stops (ofPattern false rest)) { rest := text } =
      some (value, next)) :
    capture? false block tolerant { rest := text } = some (value, next) ↔
      KeepsValue block rest text value := by
  cases widens with
  | same apart others equal =>
    rw [equal]
    refine iff_of_true captured ⟨?_, ?_⟩
    · intro run found
      rw [apart] at found
      cases found
    · intro ends
      rw [others] at ends
      cases ends
  | @shorter own more found others long short =>
    rw [long] at captured
    rw [short, capture?_short_iff captured]
    constructor
    · intro first
      refine ⟨?_, ?_⟩
      · intro run same
        rw [found] at same
        cases same
        exact first
      · intro ends
        rw [others] at ends
        cases ends
    · intro keeps
      exact keeps.beforeMark own found
  | slash apart ends opened wider =>
    rw [opened] at captured
    rw [wider, capture?_slash_iff captured]
    constructor
    · intro kept
      refine ⟨?_, ?_⟩
      · intro run found
        rw [apart] at found
        cases found
      · rw [opened]
        exact fun _ => kept
    · intro keeps
      have kept := keeps.beforeGroups ends
      rw [opened] at kept
      exact kept

theorem isUntouched_of_mark {token : Token} {rest : Pattern}
    (ends : startsWithMark (.item token .nil) = true ∨ token = .stop)
    (behind : IsUntouchedBehind (.item token rest)) :
    IsUntouched (.item token rest) := by
  rcases ends with marks | rfl
  · cases token with
    | question => exact isUntouched_of_uncapturing rfl rfl behind
    | hash => exact isUntouched_of_uncapturing rfl rfl behind
    | _ => cases marks
  · exact isUntouched_of_uncapturing rfl rfl behind

theorem isUntouchedBehind_of_item {token : Token} {rest : Pattern}
    (unmarked : startsWithMark (.item token .nil) = false) (goesOn : token ≠ .stop)
    (behind : IsUntouchedBehind (.item token rest)) :
    IsUntouchedBehind rest := by
  cases token with
  | question => cases unmarked
  | hash => cases unmarked
  | stop => exact absurd rfl goesOn
  | _ => exact behind

/-- The entries of a match without tolerated slashes come out with them exactly if all captures in
front of the groups of the path keep their values. -/
theorem run_tolerant_iff {pattern : Pattern} {text : Text} {entries : List Entry}
    (sound : ∀ token ∈ pattern.flatten, token.IsSound) (behind : IsUntouchedBehind pattern)
    (ran : run false (assemble false false none pattern) { rest := text } =
      some (entries, { rest := [] })) :
    run false (assemble true false none pattern) { rest := text } =
        some (entries, { rest := [] }) ↔
      KeepsValues pattern text (entries.map (·.text)) := by
  induction pattern generalizing text entries with
  | nil => exact iff_of_true ran trivial
  | group inner rest =>
    have untouched : IsUntouched (.group inner rest) := behind
    exact iff_of_true (run_of_isUntouched sound untouched ran) trivial
  | item token rest inductionHypothesis =>
    have others := (List.forall_mem_cons.1 sound).2
    by_cases marks : startsWithMark (.item token .nil) = true
    · have untouched := isUntouched_of_mark (.inl marks) behind
      exact iff_of_true (run_of_isUntouched sound untouched ran) (.inl marks)
    · have unmarked := Bool.eq_false_iff.2 marks
      cases is : tokenPiece token with
      | fixed fixed =>
        obtain ⟨left, rfl, further⟩ := exists_of_run_fixed sound is ran
        have goesOn : token ≠ .stop := by
          rintro rfl
          cases is
        have still : isMarkedBy false token = false := by simp [isMarkedBy, unmarked]
        have passed := run_tolerant_fixed sound is further
        rw [still] at further passed
        rw [passed, inductionHypothesis others (isUntouchedBehind_of_item unmarked goesOn behind)
          further]
        simp [KeepsValues, unmarked, is]
      | capture ahead block =>
        obtain ⟨value, left, more, rfl, rfl, captured, further⟩ := exists_of_run_capture is ran
        have goesOn : token ≠ .stop := by
          rintro rfl
          cases is
        have restBehind := isUntouchedBehind_of_item unmarked goesOn behind
        have widens := widens_of_isUntouchedBehind others restBehind
        have kept := capture?_tolerant_iff widens captured
        have later := inductionHypothesis others restBehind further
        have parts : KeepsValues (.item token rest) (ahead ++ (value ++ left))
              (List.map (·.text) (⟨block.name, value⟩ :: more)) ↔
            KeepsValue block rest (value ++ left) value ∧
              KeepsValues rest left (more.map (·.text)) := by
          simp [KeepsValues, unmarked, is, ← List.drop_drop]
        rw [parts, ← kept, ← later]
        exact run_capture_eq_some_iff is
      | stop =>
        have untouched := isUntouched_of_mark (.inr (eq_stop_of_tokenPiece is)) behind
        refine iff_of_true (run_of_isUntouched sound untouched ran) (.inr ?_)
        rw [is]
        trivial

namespace Matcher

theorem match?_eq_some_iff_run {matcher : Matcher} {route : Text} {captures : Captures}
    (complete : matcher.settings.complete = true)
    (sensitive : matcher.settings.caseInsensitive = false) :
    matcher.match? route = some captures ↔
      run false matcher.program { rest := route } = some (captures.entries, { rest := [] }) := by
  rw [match?_eq_some_iff]
  unfold verdict start
  rw [complete, sensitive]
  cases ran : run false matcher.program { rest := route } with
  | none => simp
  | some result =>
    obtain ⟨entries, ⟨rest, past⟩⟩ := result
    obtain ⟨listed⟩ := captures
    by_cases ended : (⟨rest, past⟩ : Cursor).atEnd = true
    · have finished : rest = [] ∧ past = 0 := by simpa [Cursor.atEnd] using ended
      simp [finished, Cursor.atEnd]
    · have unfinished : ¬ (rest = [] ∧ past = 0) := by simpa [Cursor.atEnd] using ended
      simp [ended, unfinished]

/-- Let slashes be tolerated, and let no capture of many segments stand before groups that end the
fragment. A match of a whole route then stays the same, entry for entry, exactly if every capture of
the path in front of its groups keeps its value. -/
theorem match?_tolerant_iff {text route : Text} {strict tolerant : Matcher} {captures : Captures}
    (compiledStrict : compile text ⟨true, true, false⟩ = .ok strict)
    (compiledTolerant : compile text ⟨false, true, false⟩ = .ok tolerant)
    (single : hasManyBeforeGroups (fragmentOf strict.pattern) = false)
    (matched : strict.match? route = some captures) :
    tolerant.match? route = some captures ↔
      KeepsValues strict.pattern route captures.positional := by
  obtain ⟨pattern, read, rfl⟩ := compile_eq_ok_iff.1 compiledStrict
  obtain ⟨other, readAgain, rfl⟩ := compile_eq_ok_iff.1 compiledTolerant
  rw [read] at readAgain
  cases readAgain
  rw [match?_eq_some_iff_run rfl rfl] at matched ⊢
  exact run_tolerant_iff (Pattern.tokens_isSound_of_read read)
    (isUntouchedBehind_of_read read single) matched

/-- The equivalence where fixed text ends the path: the value has that text in it once only. -/
theorem match?_tolerant_iff_page :
    let text := "/{*}/{page}.html?v={v}".toList
    let captures : Captures :=
      ⟨[⟨none, "a".toList⟩, ⟨some "page".toList, "b.ht".toList⟩, ⟨some "v".toList, "1".toList⟩]⟩
    ∃ strict tolerant, compile text ⟨true, true, false⟩ = .ok strict ∧
      compile text ⟨false, true, false⟩ = .ok tolerant ∧
        hasManyBeforeGroups (fragmentOf strict.pattern) = false ∧
          strict.match? "/a/b.ht.html?v=1".toList = some captures ∧
            KeepsValues strict.pattern "/a/b.ht.html?v=1".toList captures.positional ∧
              tolerant.match? "/a/b.ht.html?v=1".toList = some captures := by
  intro text captures
  let pattern : Pattern :=
    .item .slash (.item (.capture ⟨.many, none, none⟩) (.item .slash
      (.item (.capture ⟨.one, some "page".toList, none⟩) (.item (.literal ".html".toList)
        (.item .question (.item (.pair "v".toList
          (.capture ⟨.one, some "v".toList, none⟩)) .nil))))))
  have read : Pattern.read text = .ok pattern := by
    decide +kernel
  have compiledStrict := compile_of_read read ⟨true, true, false⟩
  have compiledTolerant := compile_of_read read ⟨false, true, false⟩
  have matched : Matcher.match? ⟨text, pattern, ofPattern false pattern, ⟨true, true, false⟩⟩
      "/a/b.ht.html?v=1".toList = some captures := by
    decide +kernel
  have keeps : KeepsValues pattern "/a/b.ht.html?v=1".toList captures.positional := by
    have first : IsFirstBehind "b.ht".toList ".html".toList :=
      (isFirstBehind_iff []).2 (by decide)
    refine .inr (.inr ⟨⟨nofun, nofun⟩, .inr (.inr ⟨⟨?_, nofun⟩, .inr (.inl rfl)⟩)⟩)
    intro run found
    cases found
    exact first
  exact ⟨_, _, compiledStrict, compiledTolerant, rfl, matched, keeps,
    (match?_tolerant_iff compiledStrict compiledTolerant rfl matched).2 keeps⟩

/-- Tolerated slashes can lose a match: a slash becomes a stop of the capture before a group, and
the text up to the mark is found earlier than the text with it. -/
theorem exists_match?_lost :
    (∃ strict tolerant, compile "/{*}(b)".toList ⟨true, true, false⟩ = .ok strict ∧
      compile "/{*}(b)".toList ⟨false, true, false⟩ = .ok tolerant ∧
        strict.match? "/x/yb".toList = some ⟨[⟨none, "x/y".toList⟩]⟩ ∧
          tolerant.match? "/x/yb".toList = none) ∧
      ∃ strict tolerant, compile "/{a}.h?v={}".toList ⟨true, true, false⟩ = .ok strict ∧
        compile "/{a}.h?v={}".toList ⟨false, true, false⟩ = .ok tolerant ∧
          strict.match? "/x.h.h?v=1".toList =
            some ⟨[⟨some "a".toList, "x.h".toList⟩, ⟨none, "1".toList⟩]⟩ ∧
            tolerant.match? "/x.h.h?v=1".toList = none := by
  constructor
  · let pattern : Pattern :=
      .item .slash (.item (.capture ⟨.many, none, none⟩)
        (.group (.item (.literal ['b']) .nil) .nil))
    have read : Pattern.read "/{*}(b)".toList = .ok pattern := by
      decide +kernel
    exact ⟨_, _, compile_of_read read _, compile_of_read read _, by decide +kernel,
      by decide +kernel⟩
  · let pattern : Pattern :=
      .item .slash (.item (.capture ⟨.one, some ['a'], none⟩) (.item (.literal ['.', 'h'])
        (.item .question (.item (.pair ['v'] (.capture ⟨.one, none, none⟩)) .nil))))
    have read : Pattern.read "/{a}.h?v={}".toList = .ok pattern := by
      decide +kernel
    exact ⟨_, _, compile_of_read read _, compile_of_read read _, by decide +kernel,
      by decide +kernel⟩

end Matcher

end TypedRoutes.Matching
