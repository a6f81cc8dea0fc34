import TypedRoutes.Proofs.Matching.Attribution
import TypedRoutes.Proofs.Table.Supply

/-!
Contract: captures take only texts that are proper for them.

Whatever has been matched before, and however its letters were compared, a capture begins at a place
of the route and takes text that stands there: a segment, as many segments as it spans, or anything
without blanks and marks. Its text can be empty only if it spans any number of segments and begins
where the route ends. If it lists what it allows, its text is on the list.

Owns: places of cursors, proper texts, and that all captures of a run have taken such texts.
-/

set_option autoImplicit false

namespace TypedRoutes.Matching

open TypedRoutes.Text TypedRoutes.Pattern TypedRoutes.Program TypedRoutes.Table

/-! ## Places -/

/-- The cursor at a place of a route, which can lie behind the end. -/
def Cursor.ofPlace (route : Text) (place : Nat) : Cursor where
  rest := route.drop place
  past := place - route.length

theorem ofPlace_zero (route : Text) : Cursor.ofPlace route 0 = { rest := route } := by
  simp [Cursor.ofPlace]

theorem atEnd_ofPlace_iff {route : Text} {place : Nat} :
    (Cursor.ofPlace route place).atEnd = true ↔ place = route.length := by
  simp only [Cursor.atEnd, Cursor.ofPlace, Bool.and_eq_true, List.isEmpty_iff, List.drop_eq_nil_iff,
    decide_eq_true_eq, Nat.sub_eq_zero_iff_le]
  constructor
  · rintro ⟨behind, before⟩
    exact Nat.le_antisymm before behind
  · exact fun same => ⟨same.ge, same.le⟩

/-- A stretch of a route is the start of what is left at its first place. -/
theorem extract_add (route : Text) (start length : Nat) :
    route.extract start (start + length) = (route.drop start).take length := by
  rw [List.extract_eq_take_drop, Nat.add_sub_cancel_left]

theorem ofPlace_of_skip? {fold : Bool} {route text : Text} {place : Nat} {next : Cursor}
    (skipped : (Cursor.ofPlace route place).skip? fold text = some next) :
    next = Cursor.ofPlace route (place + text.length) := by
  unfold Cursor.skip? at skipped
  obtain ⟨_, reached⟩ := Option.ite_none_right_eq_some.1 skipped
  cases reached
  dsimp only [Cursor.ofPlace]
  rw [List.drop_drop, List.length_drop]
  congr 1
  omega

theorem ofPlace_of_capture? {fold : Bool} {block : Capture} {stops : Stops} {route text : Text}
    {place : Nat} {next : Cursor}
    (captured : capture? fold block stops (Cursor.ofPlace route place) = some (text, next)) :
    next = Cursor.ofPlace route (place + text.length) := by
  obtain ⟨split, past, _⟩ := segments_of_capture? captured
  obtain ⟨rest, overrun⟩ := next
  change route.drop place = text ++ rest at split
  change overrun = place - route.length at past
  have length := congrArg List.length split
  rw [List.length_drop, List.length_append] at length
  unfold Cursor.ofPlace
  congr 1
  · rw [← List.drop_drop, split, List.drop_left]
  · omega

/-! ## Texts -/

/-- A segment of a path: there are characters in it, none of them blank or one that parts a
route. -/
def IsSegment (text : Text) : Prop :=
  text ≠ [] ∧ ∀ c ∈ text, isBlank c = false ∧ c ∉ ['/', '?', '&', '#', '=', '{', '}']

/-- What a capture has taken at a place of a route is proper for it. -/
structure Taking.IsProper (fold : Bool) (route : Text) (place : Nat) (taking : Taking) : Prop where
  began : taking.start = Cursor.ofPlace route place
  stands : taking.text <+: route.drop place
  one : taking.block.extent = .one → IsSegment taking.text
  counted :
    ∀ count, taking.block.extent = .exactly count →
      ∃ segments : List Text,
        taking.text = join ['/'] segments ∧ (segments.length : Int) = count ∧
          ∀ segment ∈ segments, IsSegment segment
  many :
    taking.block.extent = .many →
      (∀ c ∈ taking.text, isBlank c = false ∧ c ∉ ['?', '&', '#', '=', '{', '}']) ∧
        (taking.text = [] → place = route.length)
  listed :
    ∀ options, taking.block.allowed = some options →
      if fold then ∃ option ∈ options, lowercase taking.text = lowercase option
      else taking.text ∈ options

theorem isSegment_iff {text : Text} :
    IsSegment text ↔ text ≠ [] ∧ ∀ c ∈ text, isCaptureChar false c = true := by
  simp only [IsSegment, isCaptureChar, isDelimiter]
  refine and_congr_right fun _ => forall₂_congr fun c _ => ?_
  simp
  tauto

theorem isCaptureChar_true_iff {c : Char} :
    isCaptureChar true c = true ↔ isBlank c = false ∧ c ∉ ['?', '&', '#', '=', '{', '}'] := by
  simp [isCaptureChar, isDelimiter]
  tauto

/-- What a capture takes where it begins is proper for it. -/
theorem isProper_of_capture? {fold : Bool} {block : Capture} {stops : Stops} {route text : Text}
    {place : Nat} {next : Cursor} (positive : ∀ count, block.extent = .exactly count → 1 ≤ count)
    (captured : capture? fold block stops (Cursor.ofPlace route place) = some (text, next)) :
    Taking.IsProper fold route place ⟨block, Cursor.ofPlace route place, text⟩ := by
  obtain ⟨split, _, allowed, leading, last, joined, _, _, _, empty⟩ :=
    segments_of_capture? captured
  have legal := isLegal_of_capture? positive captured
  refine ⟨rfl, ⟨_, split.symm⟩, ?_, ?_, ?_, ?_⟩
  · intro one
    unfold IsLegal at legal
    rw [one] at legal
    exact isSegment_iff.2 legal
  · intro number counted
    unfold IsLegal at legal
    rw [counted] at legal
    obtain ⟨parts, whole, length, each⟩ := legal
    have least := positive number counted
    exact ⟨parts, whole, by omega, fun part member => isSegment_iff.2 (each part member)⟩
  · intro many
    unfold IsLegal at legal
    rw [many] at legal
    refine ⟨fun c member => isCaptureChar_true_iff.1 (legal c member), fun nothing => ?_⟩
    change text = [] at nothing
    have empties : leading.flatMap (· ++ ['/']) ++ last = [] := by
      rw [← join_append_singleton, ← joined, nothing]
    have ended := (empty (List.append_eq_nil_iff.1 empties).2).2
    rw [ofPlace_of_capture? captured, nothing] at ended
    exact atEnd_ofPlace_iff.1 ended
  · intro options listed
    change isAllowed fold block.allowed text = true at allowed
    change block.allowed = some options at listed
    unfold isAllowed at allowed
    rw [listed] at allowed
    cases fold with
    | true => simpa [List.any_eq_true] using allowed
    | false => simpa using allowed

/-! ## Runs -/

/-- All captures of a run are taken by the rule for captures, each at a place of the route. -/
theorem exists_places_of_record {fold : Bool} {program : Program} {route : Text} {place : Nat}
    {takings : List Taking} {last : Cursor}
    (recorded : record fold program (Cursor.ofPlace route place) = some (takings, last)) :
    (∃ final, last = Cursor.ofPlace route final) ∧
      ∀ taking ∈ takings, ∃ start stops next,
        taking.start = Cursor.ofPlace route start ∧
          capture? fold taking.block stops taking.start = some (taking.text, next) := by
  induction program generalizing place takings last with
  | nil =>
    cases recorded
    exact ⟨⟨place, rfl⟩, nofun⟩
  | item instruction rest inductionHypothesis =>
    cases instruction with
    | fixed text =>
      unfold record at recorded
      split at recorded
      · cases recorded
      · rename_i next skipped
        rw [ofPlace_of_skip? skipped] at recorded
        exact inductionHypothesis recorded
    | capture block =>
      unfold record at recorded
      split at recorded
      · cases recorded
      · rename_i text next captured
        obtain ⟨⟨others, final⟩, further, same⟩ := Option.map_eq_some_iff.1 recorded
        cases same
        rw [ofPlace_of_capture? captured] at further
        obtain ⟨ended, later⟩ := inductionHypothesis further
        exact ⟨ended, List.forall_mem_cons.2 ⟨⟨place, stops rest, next, rfl, captured⟩, later⟩⟩
    | stop =>
      unfold record at recorded
      split at recorded
      · exact inductionHypothesis recorded
      · cases recorded
  | group inner rest innerHypothesis inductionHypothesis =>
    unfold record at recorded
    split at recorded
    · exact inductionHypothesis recorded
    · rename_i first next within
      obtain ⟨⟨others, final⟩, further, same⟩ := Option.map_eq_some_iff.1 recorded
      cases same
      obtain ⟨⟨reached, rfl⟩, earlier⟩ := innerHypothesis within
      obtain ⟨ended, later⟩ := inductionHypothesis further
      exact ⟨ended, List.forall_mem_append.2 ⟨earlier, later⟩⟩

/-- Captures in a run take proper texts. Whatever the program, if its captures of a number of
segments span one at least, whatever the route and the settings: the entries of a run are left by
captures of the program, and each has taken a text that is proper for it, at a place of the route
where that text stands. -/
theorem Matcher.isProper_of_start {matcher : Matcher} {route : Text} {entries : List Entry}
    {last : Cursor}
    (positive :
      ∀ block ∈ matcher.program.captures, ∀ count, block.extent = .exactly count → 1 ≤ count)
    (started : matcher.start route = some (entries, last)) :
    ∃ takings,
      matcher.record? route = some takings ∧ entries = takings.map (·.entry) ∧
        ∀ taking ∈ takings, ∃ place,
          taking.IsProper matcher.settings.caseInsensitive route place := by
  obtain ⟨takings, recorded, listed⟩ := Matcher.exists_record_of_start started
  refine ⟨takings, by rw [record?, recorded]; rfl, listed, fun taking member => ?_⟩
  obtain ⟨reached, way, blocks⟩ := exists_way_of_record recorded
  have among : taking.block ∈ matcher.program.captures := by
    have member := List.mem_map_of_mem (f := Taking.block) member
    rw [blocks] at member
    exact (way.sublist_flatten.filterMap _).subset member
  rw [← ofPlace_zero] at recorded
  obtain ⟨place, stops, next, began, captured⟩ := (exists_places_of_record recorded).2 taking member
  obtain ⟨block, start, text⟩ := taking
  obtain rfl : start = Cursor.ofPlace route place := began
  exact ⟨place, isProper_of_capture? (positive block among) captured⟩

/-- Captures of two segments and of any number of them, with letters compared in lower case. The
second one begins at the end of the route. -/
theorem Matcher.isProper_of_start_empty :
    let pair : Capture := ⟨.exactly 2, some "p".toList, some ["B/C".toList]⟩
    let tail : Program := .item (.fixed "/".toList) (.item (.capture ⟨.many, none, none⟩) .nil)
    let matcher : Matcher :=
      { text := []
        pattern := .nil
        program :=
          .item (.fixed "/A".toList) (.item (.capture pair) (.group tail (.item .stop .nil)))
        settings := { caseInsensitive := true } }
    let entries : List Entry := [⟨some "p".toList, "b/c".toList⟩, ⟨none, []⟩]
    (∀ block ∈ matcher.program.captures, ∀ count, block.extent = .exactly count → 1 ≤ count) ∧
      matcher.start "/ab/c/".toList = some (entries, { rest := [] }) ∧
        ∃ takings,
          matcher.record? "/ab/c/".toList = some takings ∧ entries = takings.map (·.entry) ∧
            ∀ taking ∈ takings, ∃ place, taking.IsProper true "/ab/c/".toList place := by
  intro pair tail matcher entries
  have positive : ∀ block ∈ matcher.program.captures,
      ∀ count, block.extent = .exactly count → 1 ≤ count := by
    intro block member count spans
    rcases List.mem_pair.1 member with rfl | rfl
    · cases spans
      decide
    · cases spans
  have started : matcher.start "/ab/c/".toList = some (entries, { rest := [] }) := by
    decide +kernel
  exact ⟨positive, started, Matcher.isProper_of_start positive started⟩

end TypedRoutes.Matching
