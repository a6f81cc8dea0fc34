import TypedRoutes.Proofs.Matching.Attribution
import TypedRoutes.Proofs.Matching.Cutting
import TypedRoutes.Proofs.Matching.Stopping
import TypedRoutes.Proofs.Pattern.Levels
import TypedRoutes.Proofs.Program.Tolerance
import TypedRoutes.Proofs.Text.Lowercase

/-!
Contract: what a run has captured is captured again from the text that the pattern spells with it.

That text need not be the route. It has the fixed text of the pattern where the route may have it in
other letters, no tolerated slashes, and nothing of what was left over. Captures take from it what
they took from the route, unless the fixed text behind one of them is found earlier now. Without
regard to case this can happen, but only to fixed text with a character that is lowered by its
neighbours or becomes two.

Owns: stops that are lowered character by character, and the second run. Does not own: which routes
are written.
-/

set_option autoImplicit false

namespace TypedRoutes.Matching

open TypedRoutes.Text TypedRoutes.Pattern TypedRoutes.Program TypedRoutes.Table

/-! ## Steady stops -/

/-- Whether each text that can end a capture is lowered character by character. -/
def hasSteadyStops : Program → Bool
  | .nil => true
  | .item (.capture _) rest => (stops rest).texts.all (·.all isSteady) && hasSteadyStops rest
  | .item _ rest => hasSteadyStops rest
  | .group inner rest => hasSteadyStops inner && hasSteadyStops rest

@[simp] theorem hasSteadyStops_flush (run : Option Text) (program : Program) :
    hasSteadyStops (flush run program) = hasSteadyStops program := by
  cases run <;> rfl

@[simp] theorem hasSteadyStops_optionalSlash (program : Program) :
    hasSteadyStops (optionalSlash program) = hasSteadyStops program := rfl

def seen (fold : Bool) (c : Char) : Text :=
  if fold then lowercaseChar c else [c]

theorem occursAt_iff_seen {fold : Bool} {rest text : Text}
    (steady : fold = false ∨ ∀ c ∈ text, isSteady c = true) :
    occursAt fold rest text = true ↔ text.map (seen fold) <+: rest.map (seen fold) := by
  rw [List.prefix_iff_eq_take, List.length_map, ← List.map_take]
  unfold occursAt
  cases fold with
  | false =>
    have injective : Function.Injective (seen false) :=
      fun _ _ same => (List.cons_eq_cons.1 same).1
    rw [if_neg Bool.false_ne_true, List.isPrefixOf_iff_prefix, List.prefix_iff_eq_take,
      injective.list_map.eq_iff]
  | true =>
    have are : ∀ c ∈ text, isSteady c = true := by simpa using steady
    have lowered : seen true = lowercaseChar := rfl
    rw [if_pos rfl, Bool.and_eq_true, decide_eq_true_iff, decide_eq_true_iff, lowered]
    constructor
    · rintro ⟨within, same⟩
      exact ((lowercase_eq_iff are (List.length_take_of_le within)).1 same).symm
    · intro same
      have lengths := congrArg List.length same
      rw [List.length_map, List.length_map] at lengths
      refine ⟨?_, (lowercase_eq_iff are lengths.symm).2 same.symm⟩
      rw [List.length_take] at lengths
      omega

/-- Where the leftmost stop is behind a text, it is there with the very stop behind the text. -/
theorem firstStop?_append_of_steady {fold : Bool} {stop last behind left : Text}
    (steady : fold = false ∨ ∀ c ∈ stop, isSteady c = true)
    (found : firstStop? fold [stop] (last ++ behind) = some last.length) (starts : stop <+: left) :
    firstStop? fold [stop] (last ++ left) = some last.length := by
  unfold firstStop? at found ⊢
  simp only [List.any_cons, List.any_nil, Bool.or_false] at found ⊢
  rw [firstTail?_eq_some_iff] at found ⊢
  have here := found.here
  rw [List.drop_left, occursAt_iff_seen steady] at here
  have begins : stop.map (seen fold) <+: left.map (seen fold) := starts.map _
  refine ⟨by simp, ?_, ?_⟩
  · rw [List.drop_left, occursAt_iff_seen steady]
    exact begins
  · intro earlier below
    have missed := found.first earlier below
    rw [Bool.eq_false_iff, Ne, occursAt_iff_seen steady] at missed ⊢
    rw [List.drop_append_of_le_length below.le, List.map_append] at missed ⊢
    intro before
    -- An earlier occurrence would end in the stop itself, and so before what was behind the text.
    have inside : stop.map (seen fold) <+:
        (last.drop earlier).map (seen fold) ++ stop.map (seen fold) :=
      List.prefix_of_prefix_length_le before ((List.prefix_append_right_inj _).2 begins) (by simp)
    exact missed (inside.trans ((List.prefix_append_right_inj _).2 here))

/-! ## Captures -/

section

variable
  {fold : Bool}
  {block : Capture}
  {cursor next : Cursor}
  {stop value left : Text}

/-- A capture takes its value once more if its last segment is measured as before. -/
theorem capture?_again {stops : Stops}
    (captured : capture? fold block stops cursor = some (value, next))
    (measuredAgain :
      ∀ rest length, segmentLength? fold block.isMany stops { cursor with rest } = some length →
        segmentLength? fold block.isMany stops { rest := rest.take length ++ left } =
          some length) :
    capture? fold block stops { rest := value ++ left } = some (value, { rest := left }) := by
  obtain ⟨leading, rest, length, led, measured, rfl, allowed, rfl⟩ :=
    capture?_eq_some_iff.1 captured
  obtain ⟨_, count, solid⟩ := eq_of_leadingSegments? led
  have bounded : length ≤ rest.length :=
    (le_runLength_iff.1 (length_of_segmentLength? measured).1).1
  have size : (rest.take length).length = length := List.length_take_of_le bounded
  rw [capture?_eq_some_iff]
  refine ⟨leading, rest.take length ++ left, length, ?_, measuredAgain rest length measured, ?_,
    allowed, ?_⟩
  · rw [← count, join_append_singleton, List.append_assoc]
    exact leadingSegments?_eq_some solid _
  · rw [List.take_left' size]
  · rw [List.drop_left' size]

/-- A capture that fixed text ends takes its value in front of that text. -/
theorem capture?_closed_again (steady : fold = false ∨ ∀ c ∈ stop, isSteady c = true)
    (captured : capture? fold block ⟨[stop], false⟩ cursor = some (value, next))
    (starts : stop <+: left) :
    capture? fold block ⟨[stop], false⟩ { rest := value ++ left } =
      some (value, { rest := left }) := by
  refine capture?_again captured fun rest length measured => ?_
  obtain ⟨found, positive, bounded⟩ := segmentLength?_closed_iff.1 measured
  obtain ⟨within, inside⟩ := le_runLength_iff.1 bounded
  have size : (rest.take length).length = length := List.length_take_of_le within
  rw [segmentLength?_closed_iff]
  refine ⟨?_, positive, ?_⟩
  · have whole : firstStop? fold [stop] (rest.take length ++ rest.drop length) =
        some (rest.take length).length := by
      rw [List.take_append_drop, size]
      exact found
    rw [firstStop?_append_of_steady steady whole starts, size]
  · rw [le_runLength_iff, List.take_left' size, List.length_append, size]
    exact ⟨Nat.le_add_right _ _, inside⟩

/-- A capture that nothing ends takes its value where nothing is behind it. -/
theorem capture?_open_again
    (captured : capture? fold block ⟨[], true⟩ cursor = some (value, next)) :
    capture? fold block ⟨[], true⟩ { rest := value ++ [] } = some (value, { rest := [] }) := by
  refine capture?_again captured fun rest length measured => ?_
  obtain ⟨bounded, empty⟩ := length_of_segmentLength? measured
  obtain ⟨within, inside⟩ := le_runLength_iff.1 bounded
  have longest : runLength block.isMany (rest.take length ++ []) = length := by
    rw [runLength, takeWhile_append_eq inside (by simp), List.length_take_of_le within]
  unfold segmentLength?
  dsimp only
  rw [firstStop?_nil, longest]
  by_cases nothing : length = 0
  · subst nothing
    simp [(empty rfl).1, Cursor.atEnd]
  · simp [nothing]

theorem ne_nil_of_capture?_closed {texts : List Text}
    (captured : capture? fold block ⟨texts, false⟩ cursor = some (value, next)) :
    value ≠ [] := by
  obtain ⟨leading, rest, length, _, measured, rfl, _, _⟩ := capture?_eq_some_iff.1 captured
  obtain ⟨_, positive, bounded⟩ := segmentLength?_closed_iff.1 measured
  have within := (le_runLength_iff.1 bounded).1
  have lengths : (rest.take length).length = length := List.length_take_of_le within
  rw [join_append_singleton]
  intro nothing
  rw [(List.append_eq_nil_iff.1 nothing).2, List.length_nil] at lengths
  omega

end

/-! ## Spelled texts -/

/-- Fixed text in front of a program is in front of what its pattern spells. -/
theorem prefix_spelled {slash marked : Bool} {begun fixed : Text} {pattern : Pattern}
    {program : Program} (sound : ∀ token ∈ pattern.flatten, token.IsSound)
    (same : assemble slash marked (some begun) pattern = .item (.fixed fixed) program)
    (values : List Text) :
    fixed <+: begun ++ spelled pattern values := by
  induction pattern generalizing marked begun values with
  | nil =>
    cases same
    exact List.prefix_append _ _
  | group inner rest =>
    cases same
    exact List.prefix_append _ _
  | item token rest inductionHypothesis =>
    obtain ⟨own, others⟩ := List.forall_mem_cons.1 sound
    cases is : tokenPiece token with
    | fixed text =>
      rw [assemble_of_fixed own is] at same
      rw [spelled_of_fixed is, ← List.append_assoc]
      split at same
      · cases same
        exact List.prefix_append _ _
      · exact inductionHypothesis others same values
    | capture ahead block =>
      rw [assemble_some_of_capture is] at same
      cases same
      unfold spelled
      rw [is, ← List.append_assoc]
      exact List.prefix_append _ _
    | stop =>
      obtain rfl := eq_stop_of_tokenPiece is
      cases same
      exact List.prefix_append _ _

/-- What follows a capture in a pattern without groups is fixed text, or nothing but the stop. -/
theorem fixed_or_isLast {rest : Pattern} (flat : isFlat rest = true)
    (sound : ∀ token ∈ rest.flatten, token.IsSound)
    (apart : ∀ token ∈ rest.flatten.head?, token.isCapture = false) (slash marked : Bool) :
    (∃ fixed program, assemble slash marked none rest = .item (.fixed fixed) program ∧
        ∀ values, fixed <+: spelled rest values) ∨
      stops (assemble slash marked none rest) = ⟨[], true⟩ ∧ isLast rest = true := by
  cases rest with
  | nil => exact .inr ⟨rfl, rfl⟩
  | group => cases flat
  | item token others =>
    have own : token.IsSound := sound token List.mem_cons_self
    cases is : tokenPiece token with
    | fixed fixed =>
      obtain ⟨more, program, same⟩ := exists_fixed_of_assemble slash marked [] (.item token others)
      rw [assemble_none_of_fixed own is]
      exact .inl ⟨_, program, same, prefix_spelled sound same⟩
    | capture ahead block =>
      cases token with
      | capture => cases apart _ rfl
      | pair key value =>
        cases value with
        | literal => cases is
        | capture =>
          refine .inl ⟨_, _, rfl, fun values => ?_⟩
          exact List.prefix_append _ _
      | _ => cases is
    | stop =>
      obtain rfl := eq_stop_of_tokenPiece is
      exact .inr ⟨rfl, rfl⟩

/-- Where a path may end, what is spelled does not begin with a slash. -/
theorem skip?_slash_of_spelled {pattern : Pattern} (ends : endsPath pattern = true) (fold : Bool)
    (values : List Text) :
    Cursor.skip? fold ['/'] { rest := spelled pattern values } = none := by
  cases pattern with
  | nil =>
    change Cursor.skip? fold ['/'] { rest := [] } = none
    cases fold <;> decide
  | group => cases ends
  | item token rest =>
    cases token with
    | question => exact skip?_slash_of_mark (.inl rfl) fold _
    | hash => exact skip?_slash_of_mark (.inr rfl) fold _
    | _ => cases ends

/-! ## Runs -/

theorem exists_run_of_flush {fold : Bool} {begun : Option Text} {program : Program}
    {cursor : Cursor} {result : List Entry × Cursor}
    (ran : run fold (flush begun program) cursor = some result) :
    ∃ next, run fold program next = some result := by
  cases begun with
  | none => exact ⟨cursor, ran⟩
  | some fixed =>
    obtain ⟨next, _, further⟩ := run_fixed_eq_some_iff.1 ran
    exact ⟨next, further⟩

theorem exists_run_of_optionalSlash {fold : Bool} {program : Program} {cursor last : Cursor}
    {entries : List Entry} (ran : run fold (optionalSlash program) cursor = some (entries, last)) :
    ∃ next, run fold program next = some (entries, last) := by
  rcases run_group_eq_some_iff.1 ran with ⟨_, further⟩ | ⟨first, next, more, within, further, rfl⟩
  · exact ⟨cursor, further⟩
  · obtain ⟨_, _, ended⟩ := run_fixed_eq_some_iff.1 within
    cases ended
    exact ⟨next, further⟩

/-- Where nothing but the stop follows, a run to the end has used up nothing. -/
theorem eq_nil_of_run_isLast {fold slash marked : Bool} {pattern : Pattern} {text : Text}
    {entries : List Entry} (last : isLast pattern = true)
    (ran : run fold (assemble slash marked none pattern) { rest := text } =
      some (entries, { rest := [] })) :
    text = [] := by
  cases pattern with
  | nil =>
    cases ran
    rfl
  | group => cases last
  | item token rest =>
    cases token with
    | stop => simpa [Cursor.atEnd] using (run_stop_eq_some_iff.1 ran).1
    | _ => cases last

/-- A capture takes its value once more: in front of fixed text that is lowered character by
character, or where the route ends. -/
theorem capture?_spelled {fold slash marked : Bool} {block : Capture} {rest : Pattern}
    {cursor next : Cursor} {value : Text} {values : List Text} {entries : List Entry}
    (behind :
      (∃ fixed program, assemble slash marked none rest = .item (.fixed fixed) program ∧
          ∀ values, fixed <+: spelled rest values) ∨
        stops (assemble slash marked none rest) = ⟨[], true⟩ ∧ isLast rest = true)
    (steady :
      fold = false ∨
        (stops (assemble slash marked none rest)).texts.all (·.all isSteady) = true)
    (captured :
      capture? fold block (stops (assemble slash marked none rest)) cursor = some (value, next))
    (ran : run fold (assemble slash marked none rest) { rest := spelled rest values } =
      some (entries, { rest := [] })) :
    capture? fold block (stops (assemble slash marked none rest))
        { rest := value ++ spelled rest values } =
      some (value, { rest := spelled rest values }) := by
  rcases behind with ⟨stop, program, same, starts⟩ | ⟨opened, last⟩
  · rw [same] at captured steady ⊢
    have letters : fold = false ∨ ∀ c ∈ stop, isSteady c = true := by
      simpa [stops] using steady
    exact capture?_closed_again letters captured (starts values)
  · rw [opened] at captured ⊢
    rw [eq_nil_of_run_isLast last ran]
    exact capture?_open_again captured

/-- The run of the text that a pattern spells with some values has the given entries, at least where
texts that are lowered character by character end the captures. Some fixed text may have begun before
the pattern. -/
def RunsAgain (fold slash marked : Bool) (begun : Option Text) (pattern : Pattern)
    (entries : List Entry) (values : List Text) :
    Prop :=
  fold = false ∨ hasSteadyStops (assemble slash marked begun pattern) = true →
    ∀ fresh : Option Text,
      run fold (assemble slash marked fresh pattern)
          { rest := fresh.getD [] ++ spelled pattern values } =
        some (entries, { rest := [] })

/-- Values that a run of a pattern has captured, and that the run of the text they spell captures
again. -/
structure Retells (fold slash marked : Bool) (begun : Option Text) (pattern : Pattern)
    (entries : List Entry) (values : List Text) :
    Prop where
  admits : Admits pattern values
  entries_eq : entries = entriesFor pattern.captures values
  allowed :
    fold = false →
      ∀ pair ∈ pattern.captures.zip values, isAllowed false pair.1.allowed pair.2 = true
  again : RunsAgain fold slash marked begun pattern entries values

namespace Retells

variable
  {fold slash marked : Bool}
  {begun : Option Text}
  {token : Token}
  {rest : Pattern}
  {entries : List Entry}
  {values : List Text}

theorem nil : Retells fold slash marked begun .nil [] [] where
  admits := .nil
  entries_eq := rfl
  allowed := by
    intro _ pair member
    cases member
  again := fun _ fresh => run_flush fresh .nil []

/-- Fixed text captures nothing, so it is enough that it is passed once more. -/
theorem of_fixed {text : Text} {later : Bool} {next : Option Text}
    (is : tokenPiece token = .fixed text)
    (retells : Retells fold slash later next rest entries values)
    (again : RunsAgain fold slash marked begun (.item token rest) entries values) :
    Retells fold slash marked begun (.item token rest) entries values := by
  have own := Filling.capture?_eq_none_of_tokenPiece is
  have captures : Pattern.captures (.item token rest) = Pattern.captures rest := by
    rw [Filling.captures_item, own]
    rfl
  refine ⟨.other own retells.admits, ?_, ?_, again⟩
  · rw [captures]
    exact retells.entries_eq
  · rw [captures]
    exact retells.allowed

theorem fixed {text : Text} (sound : token.IsSound) (is : tokenPiece token = .fixed text)
    (goesOn : (slash && isTolerant marked token rest) = false)
    (retells : Retells fold slash (isMarkedBy marked token) (extend begun text) rest entries
      values) :
    Retells fold slash marked begun (.item token rest) entries values := by
  have assembled (run : Option Text) :
      assemble slash marked run (.item token rest) =
        assemble slash (isMarkedBy marked token) (extend run text) rest := by
    rw [assemble_of_fixed sound is, goesOn, if_neg Bool.false_ne_true]
  apply of_fixed is retells
  intro steady fresh
  rw [assembled] at steady
  have further := retells.again steady (extend fresh text)
  rw [assembled, spelled_of_fixed is, ← List.append_assoc]
  exact further

/-- Fixed text ends with the path, and the slash that is tolerated behind it is passed over. -/
theorem fixed_tolerant {text : Text} (sound : token.IsSound) (is : tokenPiece token = .fixed text)
    (ends : (slash && isTolerant marked token rest) = true)
    (retells : Retells fold slash marked none rest entries values) :
    Retells fold slash marked begun (.item token rest) entries values := by
  have assembled (run : Option Text) :
      assemble slash marked run (.item token rest) =
        flush (extend run text) (optionalSlash (assemble slash marked none rest)) := by
    rw [assemble_of_fixed sound is, if_pos ends]
  apply of_fixed is retells
  intro steady fresh
  rw [assembled, hasSteadyStops_flush, hasSteadyStops_optionalSlash] at steady
  have further : run fold (assemble slash marked none rest) { rest := spelled rest values } =
      some (entries, { rest := [] }) := retells.again steady none
  have pathEnds : endsPath rest = true :=
    (Bool.and_eq_true_iff.1 (Bool.and_eq_true_iff.1 ends).2).2
  have missed := skip?_slash_of_spelled pathEnds fold values
  have whole : fresh.getD [] ++ spelled (.item token rest) values =
      (extend fresh text).getD [] ++ spelled rest values := by
    rw [spelled_of_fixed is, ← List.append_assoc]
    rfl
  rw [assembled, whole, run_flush, ← further]
  simp [optionalSlash, run, missed]

theorem stop (before : ∀ after ∈ rest.flatten, Token.stop.mayPrecede after = true)
    (retells : Retells fold slash marked none rest entries values) :
    Retells fold slash marked begun (.item .stop rest) entries values := by
  refine ⟨.other rfl retells.admits, retells.entries_eq, retells.allowed, ?_⟩
  intro steady fresh
  obtain rfl := Filling.eq_nil_of_stop before retells.admits
  rw [assemble, hasSteadyStops_flush] at steady
  have further := retells.again steady none
  rw [assemble, run_flush, run_stop_eq_some_iff]
  exact ⟨rfl, further⟩

/-- A capture is not followed by another one, so what is behind it ends it once more. -/
theorem capture {ahead value : Text} {block : Capture} {cursor next : Cursor}
    (flat : isFlat rest = true) (sound : ∀ item ∈ Grouped.flatten (.item token rest), item.IsSound)
    (apart : ∀ item ∈ rest.flatten.head?, item.isCapture = false)
    (is : tokenPiece token = .capture ahead block)
    (captured :
      capture? fold block (stops (assemble slash marked none rest)) cursor = some (value, next))
    (retells : Retells fold slash marked none rest entries values) :
    Retells fold slash marked begun (.item token rest) (⟨block.name, value⟩ :: entries)
      (value :: values) := by
  obtain ⟨tokenSound, restSound⟩ := List.forall_mem_cons.1 sound
  have own := Filling.capture?_eq_of_tokenPiece is
  have captures : Pattern.captures (.item token rest) = block :: Pattern.captures rest := by
    rw [Filling.captures_item, own]
    rfl
  have blockSound := Filling.isSound_of_tokenPiece tokenSound is
  have legal := isLegal_of_capture? (fun segments spans => (blockSound.counted segments spans).1)
    captured
  have behind := fixed_or_isLast flat restSound apart slash marked
  refine ⟨.capture own legal ?_ retells.admits, ?_, ?_, ?_⟩
  · intro empty
    rcases behind with ⟨stop, program, same, _⟩ | ⟨_, last⟩
    · rw [same] at captured
      exact absurd empty (ne_nil_of_capture?_closed captured)
    · exact last
  · rw [captures, retells.entries_eq]
    rfl
  · intro sensitive
    rw [captures]
    refine List.forall_mem_cons.2 ⟨?_, retells.allowed sensitive⟩
    subst sensitive
    exact (segments_of_capture? captured).2.2.1
  · intro steady fresh
    obtain ⟨_, _, assembled⟩ := exists_assemble_of_capture is slash marked begun rest
    rw [assembled, hasSteadyStops_flush, hasSteadyStops, Bool.and_eq_true] at steady
    have further : run fold (assemble slash marked none rest) { rest := spelled rest values } =
        some (entries, { rest := [] }) := retells.again (steady.imp_right And.right) none
    have takenAgain :=
      capture?_spelled behind (steady.imp_right And.left) captured further
    obtain ⟨front, ⟨goesOn, _⟩, assembled⟩ :=
      exists_assemble_of_capture is slash marked fresh rest
    rw [assembled, spelled_of_capture is, ← List.append_assoc, ← goesOn, run_flush,
      run_captured_eq_some_iff]
    exact ⟨value, _, entries, takenAgain, further, rfl⟩

end Retells

/-- Whatever a run of a pattern without groups has captured, the text that the pattern spells with
it tells the run once more. -/
theorem exists_retells {fold slash marked : Bool} {begun : Option Text} {pattern : Pattern}
    {cursor last : Cursor} {entries : List Entry} (flat : isFlat pattern = true)
    (sound : ∀ token ∈ pattern.flatten, token.IsSound) (apart : pattern.flatten.IsChain IsApart)
    (ordered : pattern.flatten.Pairwise fun before after => before.mayPrecede after = true)
    (ran : run fold (assemble slash marked begun pattern) cursor = some (entries, last)) :
    ∃ values, Retells fold slash marked begun pattern entries values := by
  induction pattern generalizing marked begun cursor entries with
  | nil =>
    obtain ⟨next, ended⟩ := exists_run_of_flush ran
    cases ended
    exact ⟨[], .nil⟩
  | group inner rest => cases flat
  | item token rest inductionHypothesis =>
    obtain ⟨own, others⟩ := List.forall_mem_cons.1 sound
    obtain ⟨before, restOrdered⟩ := List.pairwise_cons.1 ordered
    have later {marked : Bool} {begun : Option Text} {cursor : Cursor} {entries : List Entry} :=
      @inductionHypothesis marked begun cursor entries flat others apart.tail restOrdered
    cases is : tokenPiece token with
    | fixed text =>
      rw [assemble_of_fixed own is] at ran
      split at ran
      · rename_i ends
        obtain ⟨_, passed⟩ := exists_run_of_flush ran
        obtain ⟨_, further⟩ := exists_run_of_optionalSlash passed
        obtain ⟨values, retells⟩ := later further
        exact ⟨values, retells.fixed_tolerant own is ends⟩
      · rename_i goesOn
        obtain ⟨values, retells⟩ := later ran
        exact ⟨values, retells.fixed own is (Bool.eq_false_iff.2 goesOn)⟩
    | capture ahead block =>
      obtain ⟨_, _, assembled⟩ := exists_assemble_of_capture is slash marked begun rest
      rw [assembled] at ran
      obtain ⟨_, capturing⟩ := exists_run_of_flush ran
      obtain ⟨value, next, more, captured, further, rfl⟩ := run_captured_eq_some_iff.1 capturing
      obtain ⟨values, retells⟩ := later further
      have alone : ∀ item ∈ rest.flatten.head?, item.isCapture = false := by
        intro item first
        rw [Bool.eq_false_iff]
        intro capture
        have uncaptured := (apart.rel_head? first capture).1
        rw [Filling.capture?_eq_of_tokenPiece is] at uncaptured
        cases uncaptured
      exact ⟨value :: values, retells.capture flat sound alone is captured⟩
    | stop =>
      obtain rfl := eq_stop_of_tokenPiece is
      obtain ⟨_, stopping⟩ := exists_run_of_flush ran
      obtain ⟨values, retells⟩ := later (run_stop_eq_some_iff.1 stopping).2
      exact ⟨values, retells.stop before⟩

namespace Matcher

theorem verdict_of_start {matcher : Matcher} {route : Text} {entries : List Entry}
    (started : matcher.start route = some (entries, { rest := [] })) :
    matcher.verdict route = .matched ⟨entries⟩ := by
  unfold verdict
  rw [started]
  simp [Cursor.atEnd]

/-- Whatever the settings are, a match of a pattern without groups has values for its captures, and
the text that the pattern spells with them is matched with the same values. -/
theorem exists_values_of_verdict {matcher : Matcher} {route : Text} {captures : Captures}
    (compiled : compile matcher.text matcher.settings = .ok matcher)
    (flat : isFlat matcher.pattern = true) (matched : matcher.verdict route = .matched captures) :
    ∃ values, Admits matcher.pattern values ∧
      captures = ⟨entriesFor matcher.pattern.captures values⟩ ∧
        (matcher.settings.caseInsensitive = false →
          ∀ pair ∈ matcher.pattern.captures.zip values,
            isAllowed false pair.1.allowed pair.2 = true) ∧
          (matcher.settings.caseInsensitive = false ∨ hasSteadyStops matcher.program = true →
            matcher.verdict (spelled matcher.pattern values) = .matched captures) := by
  obtain ⟨pattern, read, same⟩ := compile_eq_ok_iff.1 compiled
  obtain rfl : pattern = matcher.pattern := (congrArg Matcher.pattern same).symm
  have program : matcher.program = assemble (!matcher.settings.strict) false none matcher.pattern :=
    congrArg Matcher.program same
  obtain ⟨_, formed, marks⟩ := Pattern.isWellFormed_of_read read
  obtain ⟨parts, sound, whole⟩ := formed.parts
  have apart : matcher.pattern.topItems.IsChain IsApart := by
    have neighbours := formed.neighbours
    rw [← whole] at neighbours ⊢
    exact parts.isChain_topItems sound neighbours
  rw [topItems_eq_flatten flat] at apart
  obtain ⟨last, started⟩ := exists_start_of_captured (.inl (match?_eq_some_iff.2 matched))
  unfold start at started
  rw [program] at started
  obtain ⟨values, retells⟩ := exists_retells flat formed.tokens apart marks.ordered started
  refine ⟨values, retells.admits, congrArg Captures.mk retells.entries_eq, retells.allowed, ?_⟩
  intro steady
  rw [program] at steady
  apply verdict_of_start
  unfold start
  rw [program]
  exact retells.again steady none

end Matcher

end TypedRoutes.Matching
