import TypedRoutes.Proofs.Matching.Cutting
import TypedRoutes.Proofs.Matching.Span
import TypedRoutes.Proofs.Text.Lowercase

/-!
Contract: when a match of the start of a route that leaves nothing is a match of the whole route.

A match of the whole route has to end at its end. A match of the start leaves nothing there, and
nothing either where its run has gone past the end. That happens where letters are compared in lower
case: the last characters of a route can have the lower-case form of fixed text that is longer than
they are, if there is a capital I with a dot above among them.

Owns: runs that go past the end, and the agreement of both matches apart from them.
-/

set_option autoImplicit false

namespace TypedRoutes.Matching

open TypedRoutes.Text TypedRoutes.Pattern TypedRoutes.Program

/-! ## Runs past the end -/

/-- A text ends in characters that have the lower-case form of longer fixed text of a program. -/
def EndsShort (program : Program) (text : Text) : Prop :=
  ∃ fixed tail, Instruction.fixed fixed ∈ program.flatten ∧ tail <:+ text ∧
    tail.length < fixed.length ∧ lowercase tail = lowercase fixed

theorem EndsShort.mono {inner outer : Program} {text whole : Text} (short : EndsShort inner text)
    (within : inner.flatten ⊆ outer.flatten) (behind : text <:+ whole) :
    EndsShort outer whole := by
  obtain ⟨fixed, tail, member, last, shorter, same⟩ := short
  exact ⟨fixed, tail, within member, last.trans behind, shorter, same⟩

/-- Fixed text leads past the end only in a comparison in lower case with all that is left. -/
theorem endsShort_of_skip? {fold : Bool} {fixed : Text} {cursor next : Cursor}
    (skipped : cursor.skip? fold fixed = some next) (before : cursor.past = 0)
    (past : 0 < next.past) :
    fold = true ∧ cursor.rest.length < fixed.length ∧ lowercase cursor.rest = lowercase fixed := by
  unfold Cursor.skip? at skipped
  obtain ⟨found, reached⟩ := Option.ite_none_right_eq_some.1 skipped
  cases reached
  have shorter : cursor.rest.length < fixed.length := by
    dsimp only at past
    omega
  cases fold with
  | true =>
    have all : cursor.rest.take fixed.length = cursor.rest := List.take_of_length_le shorter.le
    simp only [if_true, all] at found
    exact ⟨rfl, shorter, found⟩
  | false =>
    have initial : fixed <+: cursor.rest := List.isPrefixOf_iff_prefix.1 found
    exact absurd initial.length_le (Nat.not_le.2 shorter)

theorem rest_suffix_of_run {fold : Bool} {program : Program} {cursor last : Cursor}
    {entries : List Entry} (ran : run fold program cursor = some (entries, last)) :
    last.rest <:+ cursor.rest := by
  induction program generalizing cursor last entries with
  | nil =>
    cases ran
    exact List.suffix_rfl
  | item instruction rest inductionHypothesis =>
    cases instruction with
    | fixed text =>
      obtain ⟨next, skipped, further⟩ := run_fixed_eq_some_iff.1 ran
      obtain ⟨_, reached⟩ := Option.ite_none_right_eq_some.1 skipped
      cases reached
      exact (inductionHypothesis further).trans (List.drop_suffix _ _)
    | capture block =>
      obtain ⟨text, next, more, captured, further, _⟩ := run_captured_eq_some_iff.1 ran
      rw [(segments_of_capture? captured).1]
      exact (inductionHypothesis further).trans (List.suffix_append _ _)
    | stop => exact inductionHypothesis (run_stop_eq_some_iff.1 ran).2
  | group inner rest innerHypothesis inductionHypothesis =>
    rcases run_group_eq_some_iff.1 ran with ⟨_, further⟩ | ⟨first, next, more, within, further, _⟩
    · exact inductionHypothesis further
    · exact (inductionHypothesis further).trans (innerHypothesis within)

/-- A run that goes past the end has come to fixed text that is longer than what was left. -/
theorem endsShort_of_run {fold : Bool} {program : Program} {cursor last : Cursor}
    {entries : List Entry} (ran : run fold program cursor = some (entries, last))
    (before : cursor.past = 0) (past : 0 < last.past) :
    fold = true ∧ EndsShort program cursor.rest := by
  induction program generalizing cursor last entries with
  | nil =>
    cases ran
    omega
  | item instruction rest inductionHypothesis =>
    have later {next : Cursor} (behind : next.rest <:+ cursor.rest)
        (short : fold = true ∧ EndsShort rest next.rest) :
        fold = true ∧ EndsShort (.item instruction rest) cursor.rest :=
      ⟨short.1, short.2.mono (List.subset_cons_self _ _) behind⟩
    cases instruction with
    | fixed text =>
      obtain ⟨next, skipped, further⟩ := run_fixed_eq_some_iff.1 ran
      by_cases within : next.past = 0
      · obtain ⟨_, reached⟩ := Option.ite_none_right_eq_some.1 skipped
        cases reached
        exact later (List.drop_suffix _ _) (inductionHypothesis further within past)
      · obtain ⟨folded, shorter, same⟩ :=
          endsShort_of_skip? skipped before (Nat.pos_of_ne_zero within)
        exact ⟨folded, text, cursor.rest, List.mem_cons_self, List.suffix_rfl, shorter, same⟩
    | capture block =>
      obtain ⟨text, next, more, captured, further, _⟩ := run_captured_eq_some_iff.1 ran
      obtain ⟨split, still, _⟩ := segments_of_capture? captured
      have behind : next.rest <:+ cursor.rest := ⟨text, split.symm⟩
      exact later behind (inductionHypothesis further (still.trans before) past)
    | stop =>
      have further := (run_stop_eq_some_iff.1 ran).2
      exact later List.suffix_rfl (inductionHypothesis further before past)
  | group inner rest innerHypothesis inductionHypothesis =>
    have later {next : Cursor} (behind : next.rest <:+ cursor.rest)
        (short : fold = true ∧ EndsShort rest next.rest) :
        fold = true ∧ EndsShort (.group inner rest) cursor.rest :=
      ⟨short.1, short.2.mono (List.subset_append_right _ _) behind⟩
    rcases run_group_eq_some_iff.1 ran with ⟨_, further⟩ | ⟨first, next, more, within, further, _⟩
    · exact later List.suffix_rfl (inductionHypothesis further before past)
    · by_cases inside : next.past = 0
      · exact later (rest_suffix_of_run within) (inductionHypothesis further inside past)
      · obtain ⟨folded, short⟩ := innerHypothesis within before (Nat.pos_of_ne_zero inside)
        exact ⟨folded, short.mono (List.subset_append_left _ _) List.suffix_rfl⟩

/-! ## Matches -/

namespace Matcher

variable {matcher : Matcher} {route : Text}

/-- The run of a matcher from the start of a route ends behind the end of the route. -/
def Overruns (matcher : Matcher) (route : Text) : Prop :=
  ∃ spans final, matcher.spans? route = some (spans, final) ∧ route.length < final

theorem endsShort_of_overruns (overruns : matcher.Overruns route) :
    matcher.settings.caseInsensitive = true ∧ EndsShort matcher.program route := by
  obtain ⟨spans, final, told, behind⟩ := overruns
  have started := matcher.start_eq_map_spans? route
  rw [told] at started
  refine endsShort_of_run started rfl ?_
  dsimp only [Cursor.ofPlace]
  omega

theorem match?_eq_some_iff_spans? {captures : Captures}
    (complete : matcher.settings.complete = true) :
    matcher.match? route = some captures ↔
      ∃ spans, matcher.spans? route = some (spans, route.length) ∧
        captures = ⟨spans.map (·.entry route)⟩ := by
  rw [match?_eq_map_wholeSpans?]
  unfold wholeSpans?
  simp only [complete, Option.map_eq_some_iff, Option.filter_eq_some_iff, Bool.not_true,
    Bool.false_or, decide_eq_true_eq, Prod.exists]
  constructor
  · rintro ⟨_, ⟨spans, final, ⟨told, rfl⟩, rfl⟩, rfl⟩
    exact ⟨spans, told, rfl⟩
  · rintro ⟨spans, told, rfl⟩
    exact ⟨spans, ⟨spans, route.length, ⟨told, rfl⟩, rfl⟩, rfl⟩

theorem matchStart?_eq_some_iff_spans? {captures : Captures} {rest : Text} :
    matcher.matchStart? route = some (captures, rest) ↔
      ∃ spans final, matcher.spans? route = some (spans, final) ∧
        captures = ⟨spans.map (·.entry route)⟩ ∧ rest = route.drop final := by
  rw [matchStart?_eq_map_spans?]
  simp only [Option.map_eq_some_iff, Prod.exists, Prod.mk.injEq]
  constructor
  · rintro ⟨spans, final, told, rfl, rfl⟩
    exact ⟨spans, final, told, rfl, rfl⟩
  · rintro ⟨spans, final, told, rfl, rfl⟩
    exact ⟨spans, final, told, rfl, rfl⟩

/-- Matches of whole routes are the matches of starts that leave nothing, apart from those that go
past the end. These come only of comparisons in lower case, where the route ends in fewer characters
than fixed text has with the same lower-case form, one of them a capital I with a dot above. -/
theorem match?_eq_some_iff_matchStart? (complete : matcher.settings.complete = true) :
    (∀ captures,
      matcher.match? route = some captures ↔
        matcher.matchStart? route = some (captures, []) ∧ ¬ matcher.Overruns route) ∧
      (matcher.Overruns route →
        matcher.settings.caseInsensitive = true ∧
          ∃ fixed tail,
            Instruction.fixed fixed ∈ matcher.program.flatten ∧ tail <:+ route ∧
              tail.length < fixed.length ∧ lowercase tail = lowercase fixed ∧
                ∃ c ∈ tail, c.toNat = 0x130) := by
  constructor
  · intro captures
    rw [match?_eq_some_iff_spans? complete, matchStart?_eq_some_iff_spans?]
    constructor
    · rintro ⟨spans, told, rfl⟩
      refine ⟨⟨spans, route.length, told, rfl, List.drop_length.symm⟩, ?_⟩
      rintro ⟨others, final, toldAgain, behind⟩
      rw [told] at toldAgain
      cases toldAgain
      exact Nat.lt_irrefl _ behind
    · rintro ⟨⟨spans, final, told, rfl, left⟩, within⟩
      have reached : route.length ≤ final := List.drop_eq_nil_iff.1 left.symm
      have bounded : ¬ route.length < final := fun behind => within ⟨spans, final, told, behind⟩
      obtain rfl : final = route.length := by omega
      exact ⟨spans, told, rfl⟩
  · intro overruns
    obtain ⟨folded, fixed, tail, member, last, shorter, same⟩ := endsShort_of_overruns overruns
    exact ⟨folded, fixed, tail, member, last, shorter, same,
      exists_dotted_of_lowercase_eq shorter same⟩

/-- A group that goes past the end: its text is longer than the capital letter that is left for it,
so all of the route is used up and the route is not matched. -/
theorem match?_eq_some_iff_matchStart?_group :
    ∃ matcher,
      compile ("/{a}(/i".toList ++ [Char.ofNat 0x307, ')']) ⟨true, true, true⟩ = .ok matcher ∧
        let route := "/x/".toList ++ [Char.ofNat 0x130]
        matcher.settings.complete = true ∧
          matcher.matchStart? route = some (⟨[⟨some ['a'], ['x']⟩]⟩, []) ∧
            matcher.Overruns route ∧ matcher.match? route = none := by
  let pattern : Pattern :=
    .item .slash (.item (.capture ⟨.one, some ['a'], none⟩)
      (.group (.item .slash (.item (.literal ['i', Char.ofNat 0x307]) .nil)) .nil))
  have read : Pattern.read ("/{a}(/i".toList ++ [Char.ofNat 0x307, ')']) = .ok pattern := by
    decide +kernel
  refine ⟨_, compile_of_read read _, ?_⟩
  intro route
  let matcher : Matcher :=
    ⟨"/{a}(/i".toList ++ [Char.ofNat 0x307, ')'], pattern, ofPattern false pattern,
      ⟨true, true, true⟩⟩
  have started : matcher.matchStart? route = some (⟨[⟨some ['a'], ['x']⟩]⟩, []) := by
    decide +kernel
  have overruns : matcher.Overruns route := ⟨[⟨some ['a'], 1, 2⟩], 5, by decide +kernel, by decide⟩
  have complete : matcher.settings.complete = true := rfl
  refine ⟨complete, started, overruns, ?_⟩
  rw [Option.eq_none_iff_forall_ne_some]
  intro captures matched
  obtain ⟨agree, _⟩ := match?_eq_some_iff_matchStart? complete
  exact ((agree captures).1 matched).2 overruns

/-- A start can match and leave nothing where the whole route does not match. -/
theorem exists_matchStart?_overrun :
    ∃ matcher,
      compile ['/', 'i', Char.ofNat 0x307] ⟨true, true, true⟩ = .ok matcher ∧
        matcher.matchStart? ['/', Char.ofNat 0x130] = some (⟨[]⟩, []) ∧
          matcher.match? ['/', Char.ofNat 0x130] = none := by
  let pattern : Pattern := .item .slash (.item (.literal ['i', Char.ofNat 0x307]) .nil)
  have read : Pattern.read ['/', 'i', Char.ofNat 0x307] = .ok pattern := by
    decide +kernel
  exact ⟨_, compile_of_read read _, by decide +kernel, by decide +kernel⟩

end Matcher

end TypedRoutes.Matching
