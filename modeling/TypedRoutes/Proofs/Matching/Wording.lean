import TypedRoutes.Proofs.Matching.Tolerance
import TypedRoutes.Proofs.Program.Condensing

/-!
Contract: which routes a pattern without captures and groups matches.

All of such a pattern is fixed text, so it matches the text that it is made of. Where slashes are
tolerated it matches one more route if its path ends in a literal: the text with a slash right
behind that literal. The engine takes nothing back, but neither can the tolerated slash take a
character of the text, as no slash begins what is behind the path.

Owns: wordings, the routes with a slash behind the path, and the matches of a wording with the
default settings. Does not own: matches without regard to case.
-/

set_option autoImplicit false

namespace TypedRoutes.Matching

open TypedRoutes.Text TypedRoutes.Pattern TypedRoutes.Program

/-! ## Wordings -/

/-- A pattern that leaves nothing open: it has neither captures nor groups. -/
structure IsWording (pattern : Pattern) : Prop where
  uncaptured : pattern.captures = []
  ungrouped : ∀ inner, .group inner ∉ pattern.elements

/-- A route that is the text of a pattern with a slash right behind the literal that its path
ends in. -/
def HasSlashBehindPath (pattern : Pattern) (route : Text) : Prop :=
  ∃ front last behind,
    pattern = front ++ .item (.literal last) behind ∧ hasMark front.flatten = false ∧
      endsPath behind = true ∧ route = spelled front [] ++ (last ++ '/' :: spelled behind [])

section

variable {token : Token} {rest : Pattern}

theorem IsWording.tail (wording : IsWording (.item token rest)) : IsWording rest := by
  obtain ⟨uncaptured, ungrouped⟩ := wording
  constructor
  · unfold Pattern.captures at uncaptured ⊢
    rw [Grouped.flatten, List.filterMap_cons] at uncaptured
    cases captured : token.capture? with
    | none => rwa [captured] at uncaptured
    | some block =>
      rw [captured] at uncaptured
      cases uncaptured
  · intro inner member
    exact ungrouped inner (List.mem_cons_of_mem _ member)

theorem IsWording.exists_fixed_or_eq_stop (wording : IsWording (.item token rest)) :
    (∃ fixed, tokenPiece token = .fixed fixed) ∨ token = .stop := by
  have uncaptured := wording.uncaptured
  unfold Pattern.captures at uncaptured
  rw [Grouped.flatten, List.filterMap_cons] at uncaptured
  cases is : tokenPiece token with
  | fixed fixed => exact .inl ⟨fixed, rfl⟩
  | stop => exact .inr (eq_stop_of_tokenPiece is)
  | capture ahead block =>
    rw [← capture?_tokenPiece, is] at uncaptured
    cases uncaptured

/-! ## Slashes behind the path -/

/-- A slash is behind the first token, if that is a literal which ends the path, or behind the path
of what follows it. -/
theorem hasSlashBehindPath_item_iff {fixed route : Text} (is : tokenPiece token = .fixed fixed) :
    HasSlashBehindPath (.item token rest) route ↔
      isTolerant false token rest = true ∧ route = fixed ++ '/' :: spelled rest [] ∨
        isMarkedBy false token = false ∧ ∃ left, route = fixed ++ left ∧
          HasSlashBehindPath rest left := by
  constructor
  · rintro ⟨front, last, behind, whole, unmarked, ends, rfl⟩
    cases front with
    | nil =>
      injection whole with same others
      subst same others
      cases is
      exact .inl ⟨by simpa [isTolerant, isLiteral] using ends, rfl⟩
    | group inner others => cases whole
    | item first others =>
      injection whole with same others
      subst same others
      obtain ⟨here, later⟩ : (token = .question || token = .hash) = false ∧
          hasMark _ = false := Bool.or_eq_false_iff.1 unmarked
      refine .inr ⟨?_, _, by rw [spelled_of_fixed is, List.append_assoc],
        _, last, behind, rfl, later, ends, rfl⟩
      cases token <;> first | rfl | cases here
  · rintro (⟨tolerant, rfl⟩ | ⟨unmarked, left, rfl, front, last, behind, rfl, later, ends, rfl⟩)
    · simp only [isTolerant, Bool.and_eq_true] at tolerant
      obtain ⟨⟨_, literal⟩, ends⟩ := tolerant
      cases token with
      | literal text =>
        cases is
        exact ⟨.nil, _, rest, rfl, rfl, ends, rfl⟩
      | _ => cases literal
    · refine ⟨.item token front, last, behind, rfl, ?_, ends, ?_⟩
      · refine Bool.or_eq_false_iff.2 ⟨?_, later⟩
        cases token <;> first | rfl | cases unmarked
      · rw [spelled_of_fixed is, List.append_assoc]

theorem not_hasSlashBehindPath {pattern : Pattern} {route : Text} (ends : endsPath pattern = true) :
    ¬ HasSlashBehindPath pattern route := by
  rintro ⟨front, last, behind, rfl, unmarked, _⟩
  cases front with
  | nil => cases ends
  | group inner others => cases ends
  | item first others =>
    cases first with
    | question | hash => cases unmarked
    | _ => cases ends

theorem head?_spelled_of_endsPath {pattern : Pattern} (ends : endsPath pattern = true) :
    (spelled pattern []).head? ≠ some '/' := by
  cases pattern with
  | nil => nofun
  | group => cases ends
  | item token rest =>
    cases token with
    | question | hash => nofun
    | _ => cases ends

/-! ## Routes of a wording -/

/-- The routes that what is left of a wording leads through: its text, and that with a slash behind
the path, unless a mark has gone by. -/
def IsWorded (marked : Bool) (pattern : Pattern) (route : Text) : Prop :=
  route = spelled pattern [] ∨ marked = false ∧ HasSlashBehindPath pattern route

theorem isWorded_of_endsPath_iff {marked : Bool} {pattern : Pattern} {route : Text}
    (ends : endsPath pattern = true) :
    IsWorded marked pattern route ↔ route = spelled pattern [] := by
  unfold IsWorded
  simp only [not_hasSlashBehindPath ends, and_false, or_false]

section

variable {marked : Bool} {fixed route : Text}

/-- Right behind the literal that ends the path, there may be a slash. -/
theorem isWorded_of_isTolerant_iff (is : tokenPiece token = .fixed fixed)
    (tolerant : isTolerant marked token rest = true) :
    IsWorded marked (.item token rest) route ↔
      ∃ left, route = fixed ++ left ∧ (left = '/' :: spelled rest [] ∨ left = spelled rest []) := by
  have ends : endsPath rest = true := (Bool.and_eq_true_iff.1 tolerant).2
  obtain rfl : marked = false := by
    simp only [isTolerant, Bool.and_eq_true, Bool.not_eq_true'] at tolerant
    exact tolerant.1.1
  unfold IsWorded
  rw [spelled_of_fixed is, hasSlashBehindPath_item_iff is]
  constructor
  · rintro (rfl | ⟨_, ⟨_, rfl⟩ | ⟨_, left, _, slashed⟩⟩)
    · exact ⟨_, rfl, .inr rfl⟩
    · exact ⟨_, rfl, .inl rfl⟩
    · exact absurd slashed (not_hasSlashBehindPath ends)
  · rintro ⟨left, rfl, rfl | rfl⟩
    · exact .inr ⟨rfl, .inl ⟨tolerant, rfl⟩⟩
    · exact .inl rfl

theorem isWorded_of_fixed_iff (is : tokenPiece token = .fixed fixed)
    (strict : ¬ isTolerant marked token rest = true) :
    IsWorded marked (.item token rest) route ↔
      ∃ left, route = fixed ++ left ∧ IsWorded (isMarkedBy marked token) rest left := by
  unfold IsWorded
  rw [spelled_of_fixed is, hasSlashBehindPath_item_iff is]
  constructor
  · rintro (rfl | ⟨rfl, ⟨tolerated, _⟩ | ⟨unmarked, left, rfl, slashed⟩⟩)
    · exact ⟨_, rfl, .inl rfl⟩
    · exact absurd tolerated strict
    · exact ⟨left, rfl, .inr ⟨unmarked, slashed⟩⟩
  · rintro ⟨left, rfl, rfl | ⟨unmarked, slashed⟩⟩
    · exact .inl rfl
    · obtain ⟨rfl, own⟩ := Bool.or_eq_false_iff.1 unmarked
      exact .inr ⟨rfl, .inr ⟨own, left, rfl, slashed⟩⟩

/-- The stop is the end of the text, and no path ends in a literal before it. -/
theorem isWorded_stop_iff : IsWorded marked (.item .stop .nil) route ↔ route = [] := by
  have nowhere : ¬ HasSlashBehindPath (.item .stop .nil) route := by
    rintro ⟨front, last, behind, whole, _⟩
    cases front with
    | item _ others =>
      injection whole with _ whole
      cases others <;> cases whole
    | _ => cases whole
  unfold IsWorded
  simp only [nowhere, and_false, or_false]
  rfl

end

end

/-! ## Runs -/

/-- A run with tolerated slashes uses up the routes that a wording leads through, and no others. -/
theorem run_wording_iff {pattern : Pattern} {marked : Bool} {route : Text} {entries : List Entry}
    (wording : IsWording pattern) (sound : ∀ token ∈ pattern.flatten, token.IsSound)
    (ordered : pattern.flatten.Pairwise fun before after => before.mayPrecede after = true) :
    run false (assemble true marked none pattern) { rest := route } =
        some (entries, { rest := [] }) ↔
      entries = [] ∧ IsWorded marked pattern route := by
  induction pattern generalizing marked route with
  | nil =>
    rw [isWorded_of_endsPath_iff rfl]
    simp [assemble, flush, run, spelled, eq_comm]
  | group inner rest => exact absurd List.mem_cons_self (wording.ungrouped inner)
  | item token rest inductionHypothesis =>
    obtain ⟨before, restOrdered⟩ := List.pairwise_cons.1 ordered
    have others := (List.forall_mem_cons.1 sound).2
    have later {marked : Bool} {left : Text} :=
      @inductionHypothesis marked left wording.tail others restOrdered
    rcases wording.exists_fixed_or_eq_stop with ⟨fixed, is⟩ | rfl
    · rw [run_assemble_fixed_iff sound is, Bool.true_and]
      by_cases tolerant : isTolerant marked token rest = true
      · have ends : endsPath rest = true := (Bool.and_eq_true_iff.1 tolerant).2
        have slashless := head?_spelled_of_endsPath ends
        rw [isWorded_of_isTolerant_iff is tolerant]
        simp only [if_pos tolerant, run_optionalSlash_iff, later, isWorded_of_endsPath_iff ends]
        constructor
        · rintro ⟨left, rfl, ⟨_, rfl, nothing, rfl⟩ | ⟨_, nothing, rfl⟩⟩
          · exact ⟨nothing, _, rfl, .inl rfl⟩
          · exact ⟨nothing, _, rfl, .inr rfl⟩
        · rintro ⟨nothing, left, rfl, rfl | rfl⟩
          · exact ⟨_, rfl, .inl ⟨_, rfl, nothing, rfl⟩⟩
          · exact ⟨_, rfl, .inr ⟨slashless, nothing, rfl⟩⟩
      · rw [isWorded_of_fixed_iff is tolerant]
        simp only [if_neg tolerant, later]
        constructor
        · rintro ⟨left, rfl, nothing, worded⟩
          exact ⟨nothing, left, rfl, worded⟩
        · rintro ⟨nothing, left, rfl, worded⟩
          exact ⟨left, rfl, nothing, worded⟩
    · -- The stop is last, so that nothing of the pattern is left behind it.
      obtain rfl : rest = .nil := by
        have nothing := eq_nil_of_stop_mayPrecede before
        cases rest with
        | nil => rfl
        | item => cases nothing
        | group inner => exact absurd List.mem_cons_self (wording.tail.ungrouped inner)
      show run false (.item .stop .nil) { rest := route } = some (entries, { rest := [] }) ↔ _
      rw [run_stop_eq_some_iff, isWorded_stop_iff]
      cases route with
      | nil => simp [Cursor.atEnd, run, eq_comm]
      | cons c more => simp [Cursor.atEnd]

/-! ## Matches -/

namespace Matcher

/-- With the default settings a pattern without captures and groups matches just its own text and,
if its path ends in a literal, that text with a slash right behind the literal. The match delivers
nothing. -/
theorem match?_eq_some_iff_wording {text route : Text} {matcher : Matcher} {captures : Captures}
    (compiled : compile text {} = .ok matcher) (wording : IsWording matcher.pattern) :
    matcher.match? route = some captures ↔
      captures.entries = [] ∧
        (route = spelled matcher.pattern [] ∨ HasSlashBehindPath matcher.pattern route) := by
  obtain ⟨pattern, read, rfl⟩ := compile_eq_ok_iff.1 compiled
  have sound := Pattern.tokens_isSound_of_read read
  have ordered := (Pattern.hasOrderedMarks_of_read read).ordered
  rw [match?_eq_some_iff_run rfl rfl]
  refine (run_wording_iff wording sound ordered).trans ?_
  simp only [IsWorded, true_and]

/-- The equivalence at a pattern with a query, whose path takes a slash behind its literal. -/
theorem match?_eq_some_iff_wording_search :
    ∃ matcher, compile "/a\x7b\x7bb?c=d".toList {} = .ok matcher ∧ IsWording matcher.pattern ∧
      matcher.match? "/a\x7bb/?c=d".toList = some ⟨[]⟩ := by
  let pattern : Pattern :=
    .item .slash (.item (.literal "a\x7bb".toList) (.item .question
      (.item (.pair ['c'] (.literal ['d'])) .nil)))
  have read : Pattern.read "/a\x7b\x7bb?c=d".toList = .ok pattern := by
    decide +kernel
  have wording : IsWording pattern := ⟨rfl, by simp [pattern, Grouped.elements]⟩
  have slashed : HasSlashBehindPath pattern "/a\x7bb/?c=d".toList :=
    ⟨.item .slash .nil, "a\x7bb".toList, _, rfl, rfl, rfl, rfl⟩
  have compiled := compile_of_read read {}
  exact ⟨_, compiled, wording, (match?_eq_some_iff_wording compiled wording).2 ⟨rfl, .inr slashed⟩⟩

end Matcher

end TypedRoutes.Matching
