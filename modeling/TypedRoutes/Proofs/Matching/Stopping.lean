import Mathlib.Data.List.DropRight
import TypedRoutes.Proofs.Matching.Progress

/-!
Contract: the same capture with more stops.

A capture ends before the leftmost of its stops, so more stops may end it earlier. It takes the same
text as before exactly if none of the new stops comes first. Two ways to have more stops matter: a
stop is cut short, or a slash becomes a stop as well.

Owns: the places of leftmost stops, and the two laws for what a capture takes.
-/

set_option autoImplicit false

namespace TypedRoutes.Matching

open TypedRoutes.Text TypedRoutes.Pattern TypedRoutes.Program

/-! ## Leftmost stops -/

/-- The place before which no tail has a property and from which on the tail has it. -/
structure IsLeftmost (holds : Text → Bool) (text : Text) (place : Nat) : Prop where
  within : place ≤ text.length
  here : holds (text.drop place) = true
  first : ∀ earlier < place, holds (text.drop earlier) = false

theorem IsLeftmost.eq {holds : Text → Bool} {text : Text} {place other : Nat}
    (one : IsLeftmost holds text place) (another : IsLeftmost holds text other) :
    place = other := by
  rcases Nat.lt_trichotomy place other with before | same | behind
  · have missed := another.first place before
    rw [one.here] at missed
    cases missed
  · exact same
  · have missed := one.first other behind
    rw [another.here] at missed
    cases missed

theorem isLeftmost_of_firstTail? {holds : Text → Bool} {text : Text} {place : Nat}
    (found : firstTail? holds text = some place) :
    IsLeftmost holds text place := by
  induction text generalizing place with
  | nil =>
    unfold firstTail? at found
    split at found
    · rename_i here
      cases found
      exact ⟨Nat.le_refl 0, here, by simp⟩
    · cases found
  | cons c rest inductionHypothesis =>
    unfold firstTail? at found
    split at found
    · rename_i here
      cases found
      exact ⟨Nat.zero_le _, here, by simp⟩
    · rename_i missed
      obtain ⟨before, further, rfl⟩ := Option.map_eq_some_iff.1 found
      have leftmost := inductionHypothesis further
      refine ⟨Nat.succ_le_succ leftmost.within, leftmost.here, ?_⟩
      intro earlier below
      cases earlier with
      | zero => simpa using missed
      | succ earlier => exact leftmost.first earlier (Nat.lt_of_succ_lt_succ below)

theorem exists_firstTail? {holds : Text → Bool} {text : Text} {place : Nat}
    (within : place ≤ text.length) (here : holds (text.drop place) = true) :
    ∃ first, firstTail? holds text = some first := by
  induction text generalizing place with
  | nil =>
    have now : holds [] = true := by simpa using here
    exact ⟨0, if_pos now⟩
  | cons c rest inductionHypothesis =>
    by_cases now : holds (c :: rest) = true
    · exact ⟨0, if_pos now⟩
    · cases place with
      | zero => exact absurd here now
      | succ place =>
        obtain ⟨first, found⟩ := inductionHypothesis (Nat.le_of_succ_le_succ within) here
        refine ⟨first + 1, ?_⟩
        rw [firstTail?, if_neg now, found]
        rfl

theorem firstTail?_eq_some_iff {holds : Text → Bool} {text : Text} {place : Nat} :
    firstTail? holds text = some place ↔ IsLeftmost holds text place := by
  constructor
  · exact isLeftmost_of_firstTail?
  · intro leftmost
    obtain ⟨first, found⟩ := exists_firstTail? leftmost.within leftmost.here
    rw [found, (isLeftmost_of_firstTail? found).eq leftmost]

theorem firstTail?_or (first second : Text → Bool) (text : Text) :
    firstTail? (fun tail => first tail || second tail) text =
      (firstTail? first text).merge min (firstTail? second text) := by
  induction text with
  | nil => cases atFirst : first [] <;> cases atSecond : second [] <;> simp [firstTail?, *]
  | cons c rest inductionHypothesis =>
    simp only [firstTail?, inductionHypothesis]
    cases atFirst : first (c :: rest) <;> cases atSecond : second (c :: rest) <;>
      cases firstTail? first rest <;> cases firstTail? second rest <;> simp

/-- Of two sets of stops the one that comes first counts. -/
theorem firstStop?_append (first second : List Text) (text : Text) :
    firstStop? false (first ++ second) text =
      (firstStop? false first text).merge min (firstStop? false second text) := by
  unfold firstStop?
  simp only [List.any_append]
  exact firstTail?_or _ _ text

/-- The leftmost of some stops is where one of them stands and none has stood before. -/
theorem firstStop?_eq_some_iff {texts : List Text} {text : Text} {place : Nat} :
    firstStop? false texts text = some place ↔
      place ≤ text.length ∧ (∃ stop ∈ texts, stop <+: text.drop place) ∧
        ∀ earlier < place, ∀ stop ∈ texts, ¬ stop <+: text.drop earlier := by
  have occurs (tail : Text) :
      texts.any (occursAt false tail) = true ↔ ∃ stop ∈ texts, stop <+: tail := by
    simp [occursAt]
  unfold firstStop?
  rw [firstTail?_eq_some_iff]
  constructor
  · rintro ⟨within, here, first⟩
    refine ⟨within, (occurs _).1 here, ?_⟩
    intro earlier below stop member initial
    have missed := first earlier below
    rw [(occurs _).2 ⟨stop, member, initial⟩] at missed
    cases missed
  · rintro ⟨within, here, first⟩
    refine ⟨within, (occurs _).2 here, ?_⟩
    intro earlier below
    rw [Bool.eq_false_iff]
    intro found
    obtain ⟨stop, member, initial⟩ := (occurs _).1 found
    exact first earlier below stop member initial

/-- A slash as a stop comes first in a text exactly where one can be found before any place. -/
theorem mem_take_iff_firstStop? (text : Text) (length : Nat) :
    '/' ∈ text.take length ↔ ∃ place ∈ firstStop? false [['/']] text, place < length := by
  unfold firstStop?
  induction text generalizing length with
  | nil => simp [firstTail?, occursAt]
  | cons c rest inductionHypothesis =>
    cases length with
    | zero => simp
    | succ length =>
      by_cases slash : c = '/'
      · simp [firstTail?, occursAt, slash]
      · have missed : ¬ '/' = c := fun same => slash same.symm
        rw [List.take_succ_cons, List.mem_cons, inductionHypothesis]
        simp [firstTail?, occursAt, missed]

/-! ## Lengths of segments -/

/-- A slash as one more stop of an open capture leaves its end where it is, unless the text taken so
far holds a slash. Then it must be the longest one, and a stop must stand at its very start. -/
theorem segmentLength?_slash_iff {many : Bool} {texts : List Text} {rest : Text} {length : Nat}
    (measured : segmentLength? false many ⟨texts, true⟩ { rest } = some length) :
    segmentLength? false many ⟨texts ++ [['/']], true⟩ { rest } = some length ↔
      ('/' ∈ rest.take length →
        length = runLength many rest ∧ firstStop? false (texts ++ [['/']]) rest = some 0) := by
  rw [mem_take_iff_firstStop?]
  unfold segmentLength? at measured ⊢
  dsimp only at measured ⊢
  rw [firstStop?_append]
  cases own : firstStop? false texts rest <;> cases slash : firstStop? false [['/']] rest
  all_goals
    simp only [own, Option.merge_none_left, Option.merge_none_right, Option.merge_some_some,
      Option.mem_some_iff, Option.not_mem_none, exists_eq_left', false_and, exists_false,
      Bool.not_true, Bool.false_eq_true, if_false] at measured ⊢
    grind

/-- A text put behind another one occurs in the two no earlier than there. -/
def IsFirstBehind (last run : Text) : Prop :=
  ∀ before behind, last ++ run = before ++ run ++ behind → behind = []

theorem isFirstBehind_iff {last run : Text} (left : Text) :
    IsFirstBehind last run ↔
      ∀ earlier < last.length, ¬ run <+: (last ++ (run ++ left)).drop earlier := by
  constructor
  · intro first earlier below initial
    rw [List.drop_append_of_le_length (Nat.le_of_lt below), ← List.append_assoc] at initial
    have inside : run <+: last.drop earlier ++ run :=
      List.prefix_of_prefix_length_le initial (List.prefix_append _ _) (by simp)
    obtain ⟨behind, split⟩ := inside
    have parts : last ++ run = last.take earlier ++ run ++ behind := by
      rw [List.append_assoc, split, ← List.append_assoc, List.take_append_drop]
    have nothing : behind = [] := first _ _ parts
    have lengths := congrArg List.length parts
    simp only [nothing, List.append_nil, List.length_append, List.length_take] at lengths
    omega
  · intro missed before behind split
    by_contra further
    have positive := List.length_pos_iff.2 further
    have lengths := congrArg List.length split
    simp only [List.length_append] at lengths
    apply missed before.length (by omega)
    refine ⟨behind ++ left, ?_⟩
    rw [← List.append_assoc last, split]
    simp

/-- A capture that is not open ends at its leftmost stop or not at all. -/
theorem segmentLength?_closed_iff {fold many : Bool} {texts : List Text} {cursor : Cursor}
    {length : Nat} :
    segmentLength? fold many ⟨texts, false⟩ cursor = some length ↔
      firstStop? fold texts cursor.rest = some length ∧
        0 < length ∧ length ≤ runLength many cursor.rest := by
  unfold segmentLength?
  cases firstStop? fold texts cursor.rest with
  | none => simp
  | some first => grind

/-- Where a capture ends at a stop, it ends at a shorter one as well if that one does not occur
earlier. -/
theorem segmentLength?_short_iff {many : Bool} {run more rest : Text} {length : Nat}
    (measured : segmentLength? false many ⟨[run ++ more], false⟩ { rest } = some length) :
    segmentLength? false many ⟨[run], false⟩ { rest } = some length ↔
      IsFirstBehind (rest.take length) run := by
  obtain ⟨found, bounds⟩ := segmentLength?_closed_iff.1 measured
  obtain ⟨within, ⟨_, member, initial⟩, _⟩ := firstStop?_eq_some_iff.1 found
  obtain rfl := List.mem_singleton.1 member
  obtain ⟨left, split⟩ := initial
  have whole : rest.take length ++ (run ++ (more ++ left)) = rest := by
    rw [← List.append_assoc run, split, List.take_append_drop]
  have size : (rest.take length).length = length := List.length_take_of_le within
  have here : run <+: rest.drop length := ⟨more ++ left, by rw [← split, List.append_assoc]⟩
  rw [segmentLength?_closed_iff, isFirstBehind_iff (more ++ left), whole, size,
    firstStop?_eq_some_iff]
  constructor
  · rintro ⟨⟨_, _, first⟩, _⟩ earlier below
    exact first earlier below run (List.mem_singleton_self run)
  · intro first
    refine ⟨⟨within, ⟨run, List.mem_singleton_self run, here⟩, ?_⟩, bounds⟩
    intro earlier below stop member
    rw [List.mem_singleton.1 member]
    exact first earlier below

/-! ## Captures -/

/-- A capture takes its leading segments and a last one as long as its stops have it. -/
theorem capture?_eq_some_iff {fold : Bool} {block : Capture} {stops : Stops} {value : Text}
    {cursor next : Cursor} :
    capture? fold block stops cursor = some (value, next) ↔
      ∃ leading rest length,
        leadingSegments? (block.segments - 1).toNat cursor.rest = some (leading, rest) ∧
          segmentLength? fold block.isMany stops { cursor with rest } = some length ∧
            value = Text.join ['/'] (leading ++ [rest.take length]) ∧
              isAllowed fold block.allowed value = true ∧
                next = { cursor with rest := rest.drop length } := by
  unfold capture?
  constructor
  · intro captured
    split at captured
    · cases captured
    · rename_i leading rest led
      dsimp only at captured
      split at captured
      · cases captured
      · rename_i length measured
        split at captured
        · rename_i allowed
          cases captured
          exact ⟨leading, rest, length, led, measured, rfl, allowed, rfl⟩
        · cases captured
  · rintro ⟨leading, rest, length, led, measured, rfl, allowed, rfl⟩
    rw [led]
    dsimp only
    rw [measured]
    exact if_pos allowed

theorem length_le_of_segmentLength? {many : Bool} {stops : Stops} {rest : Text} {length : Nat}
    (measured : segmentLength? false many stops { rest } = some length) :
    length ≤ rest.length :=
  (le_runLength_iff.1 (length_of_segmentLength? measured).1).1

theorem leading_eq_zero_of_isMany {block : Capture} (many : block.isMany = true) :
    (block.segments - 1).toNat = 0 := by
  obtain ⟨extent, name, allowed⟩ := block
  cases extent with
  | many => rfl
  | one => cases many
  | exactly segments => cases many

/-- A capture takes the same with other stops exactly if they give its last segment the same
length. -/
theorem exists_last_of_capture? {block : Capture} {stops : Stops} {text value : Text}
    {next : Cursor} (captured : capture? false block stops { rest := text } = some (value, next)) :
    ∃ ahead rest length,
      text = ahead ++ rest ∧ value = ahead ++ rest.take length ∧
        (ahead = [] ∨ block.isMany = false ∧ ∃ start, ahead = start ++ ['/']) ∧
          segmentLength? false block.isMany stops { rest } = some length ∧
            ∀ others, capture? false block others { rest := text } = some (value, next) ↔
              segmentLength? false block.isMany others { rest } = some length := by
  obtain ⟨leading, rest, length, led, measured, rfl, allowed, rfl⟩ :=
    capture?_eq_some_iff.1 captured
  obtain ⟨split, count, _⟩ := eq_of_leadingSegments? led
  have start : leading.flatMap (· ++ ['/']) = [] ∨
      block.isMany = false ∧ ∃ start, leading.flatMap (· ++ ['/']) = start ++ ['/'] := by
    rcases List.eq_nil_or_concat leading with rfl | ⟨others, segment, rfl⟩
    · exact .inl rfl
    · refine .inr ⟨?_, others.flatMap (· ++ ['/']) ++ segment, by simp⟩
      rw [Bool.eq_false_iff]
      intro many
      rw [leading_eq_zero_of_isMany many] at count
      simp at count
  refine ⟨_, rest, length, split, join_append_singleton _ _, start, measured, ?_⟩
  intro others
  rw [capture?_eq_some_iff]
  constructor
  · rintro ⟨_, _, other, ledAgain, measuredAgain, _, _, same⟩
    rw [led] at ledAgain
    cases ledAgain
    have bounded := length_le_of_segmentLength? measured
    have boundedAgain := length_le_of_segmentLength? measuredAgain
    have lengths := congrArg (fun cursor => cursor.rest.length) same
    simp only [List.length_drop] at lengths
    obtain rfl : other = length := by omega
    exact measuredAgain
  · intro measuredAgain
    exact ⟨leading, rest, length, led, measuredAgain, rfl, allowed, rfl⟩

/-- The last segment of a captured text, which is all of it where slashes do not part it. -/
def lastSegment (block : Capture) (value : Text) : Text :=
  value.rtakeWhile (isCaptureChar block.isMany)

theorem lastSegment_eq {block : Capture} {ahead last : Text}
    (starts : ahead = [] ∨ block.isMany = false ∧ ∃ start, ahead = start ++ ['/'])
    (inside : ∀ c ∈ last, isCaptureChar block.isMany c = true) :
    lastSegment block (ahead ++ last) = last := by
  unfold lastSegment
  rcases starts with rfl | ⟨single, start, rfl⟩
  · exact List.rtakeWhile_eq_self_iff.2 inside
  · have reversed : (start ++ ['/'] ++ last).reverse = last.reverse ++ '/' :: start.reverse := by
      simp
    have slash : isCaptureChar block.isMany '/' = false := by
      rw [single]
      rfl
    rw [List.rtakeWhile, reversed, takeWhile_append_eq (by simpa using inside) (by simp [slash]),
      List.reverse_reverse]

theorem isCaptureChar_of_segmentLength? {many : Bool} {stops : Stops} {rest : Text} {length : Nat}
    (measured : segmentLength? false many stops { rest } = some length) :
    ∀ c ∈ rest.take length, isCaptureChar many c = true := by
  have bounded : length ≤ runLength many rest := (length_of_segmentLength? measured).1
  exact (le_runLength_iff.1 bounded).2

/-- Where a capture ends at fixed text, it takes the same before less of that text if the text in
question does not occur in its last segment. -/
theorem capture?_short_iff {block : Capture} {run more text value : Text} {next : Cursor}
    (captured : capture? false block ⟨[run ++ more], false⟩ { rest := text } = some (value, next)) :
    capture? false block ⟨[run], false⟩ { rest := text } = some (value, next) ↔
      IsFirstBehind (lastSegment block value) run := by
  obtain ⟨ahead, rest, length, _, rfl, starts, measured, again⟩ := exists_last_of_capture? captured
  rw [again, segmentLength?_short_iff measured,
    lastSegment_eq starts (isCaptureChar_of_segmentLength? measured)]

/-- Where an open capture has a slash as one more stop, it takes the same unless it is one of many
segments and takes a slash. Then it must take all it can, and a stop must stand where it begins. -/
theorem capture?_slash_iff {block : Capture} {texts : List Text} {text value : Text} {next : Cursor}
    (captured : capture? false block ⟨texts, true⟩ { rest := text } = some (value, next)) :
    capture? false block ⟨texts ++ [['/']], true⟩ { rest := text } = some (value, next) ↔
      (block.isMany = true → '/' ∈ value →
        value = text.takeWhile (isCaptureChar true) ∧
          ∃ stop ∈ texts ++ [['/']], stop <+: text) := by
  obtain ⟨ahead, rest, length, rfl, rfl, starts, measured, again⟩ :=
    exists_last_of_capture? captured
  rw [again, segmentLength?_slash_iff measured]
  have bounded := length_le_of_segmentLength? measured
  cases many : block.isMany with
  | false =>
    have apart : '/' ∉ rest.take length := by
      intro member
      have inside := isCaptureChar_of_segmentLength? measured '/' member
      rw [many] at inside
      cases inside
    simp [apart]
  | true =>
    obtain rfl : ahead = [] := by
      rcases starts with nothing | ⟨single, _⟩
      · exact nothing
      · rw [many] at single
        cases single
    have longest : length = runLength true rest ↔
        rest.take length = rest.takeWhile (isCaptureChar true) := by
      constructor
      · intro same
        rw [same]
        exact (List.prefix_iff_eq_take.1 (List.takeWhile_prefix _)).symm
      · intro same
        rw [runLength, ← same, List.length_take_of_le bounded]
    have initial : firstStop? false (texts ++ [['/']]) rest = some 0 ↔
        ∃ stop ∈ texts ++ [['/']], stop <+: rest := by
      rw [firstStop?_eq_some_iff]
      simp
    rw [List.nil_append, List.nil_append, longest, initial]
    simp only [true_implies]

end TypedRoutes.Matching
