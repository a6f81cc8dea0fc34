import TypedRoutes.Proofs.Pattern.Marks
import TypedRoutes.Proofs.Pattern.Neighbours
import TypedRoutes.Proofs.Pattern.Recognized

/-!
Contract: every pattern that is read is well formed.

A group can only be a body of the zone it stands in. Outside of groups what is left from a zone on
is what the zones after it leave room for, so the parts of a pattern are put together from its end.

Owns: what is left of a pattern from a zone on, and the soundness of `Pattern.read`.
-/

set_option autoImplicit false

namespace TypedRoutes.Pattern

open TypedRoutes.Text

theorem startsWithLiteral_of_scanToken {state : State} {input between : Text} {token : Token}
    {others : Pattern} (scanned : scanToken state input = .ok (token, between))
    (exhausted : (scanLiteral input).1 = []) :
    startsWithLiteral (.item token others) = false := by
  cases token with
  | literal text =>
    obtain ⟨nonempty, found⟩ := scanLiteral_of_scanToken scanned
    rw [found] at exhausted
    exact absurd exhausted nonempty
  | _ => rfl

namespace Reads

variable {inGroup : Bool} {state final : State} {input rest : Text} {elements : Pattern}

theorem tokens_isSound (reads : Reads inGroup state input elements final rest) :
    ∀ token ∈ elements.flatten, token.IsSound := by
  induction reads with
  | done => simp [Grouped.flatten]
  | token plain scanned _ _ _ inductionHypothesis =>
    exact List.forall_mem_cons.2 ⟨scanToken_isSound scanned, inductionHypothesis⟩
  | group _ _ _ _ _ withinHypothesis inductionHypothesis =>
    intro token member
    rcases List.mem_append.1 member with inside | later
    · exact withinHypothesis token inside
    · exact inductionHypothesis token later

theorem startsWithLiteral_eq_false (reads : Reads inGroup state input elements final rest)
    (exhausted : (scanLiteral input).1 = []) :
    startsWithLiteral elements = false := by
  cases reads with
  | done => rfl
  | group => rfl
  | token _ scanned => exact startsWithLiteral_of_scanToken scanned exhausted

theorem startsWithLiteral_of_literal {token : Token} {earlier : State} {before : Text}
    (remaining : Reads inGroup state input elements final rest)
    (scanned : scanToken earlier before = .ok (token, input))
    (literal : startsWithLiteral (.item token .nil) = true) :
    startsWithLiteral elements = false := by
  cases token with
  | literal text =>
    have exhausted := scanLiteral_exhausted before
    rw [(scanLiteral_of_scanToken scanned).2] at exhausted
    exact remaining.startsWithLiteral_eq_false exhausted
  | _ => cases literal

/-- The inside of a group is a body of the zone it stands in, and leaves the zone as it is. -/
theorem isBody (reads : Reads inGroup state input elements final rest) (inside : inGroup = true)
    (regular : state.IsRegular) (body : state.zone.isBody = true) :
    IsBody state.zone.hasSlashes elements ∧
      (isGroup state.previous = true → isAllGroups elements = true) := by
  induction reads with
  | done => exact ⟨trivial, fun _ => rfl⟩
  | @token _ state _ _ _ _ _ _ token others
      plain scanned unmarked stepped remaining inductionHypothesis =>
    subst inside
    obtain ⟨follows, admits, rfl⟩ := (State.step_eq_ok_iff regular).1 stepped
    obtain ⟨zone, follows⟩ := Option.isSome_iff_exists.1 follows
    obtain ⟨fits, rfl⟩ := Zone.isBodyToken_of_after? follows body (by simpa using unmarked)
    have same := State.zone_move follows
    have later := inductionHypothesis rfl (State.move_isRegular _ _) (by rw [same]; exact body)
    rw [same] at later
    refine ⟨⟨fits, remaining.startsWithLiteral_of_literal scanned, later.1⟩, fun behind => ?_⟩
    have alone := admits.1 (Token.isBodyToken_true fits)
    rw [alone] at behind
    contradiction
  | @group _ state _ _ _ _ _ _ _ inner others
      opening within nonempty stepped remaining withinHypothesis inductionHypothesis =>
    obtain ⟨follows, _, rfl⟩ := (State.step_eq_ok_iff regular).1 stepped
    obtain ⟨zone, follows⟩ := Option.isSome_iff_exists.1 follows
    obtain ⟨_, rfl⟩ := Zone.after?_group_eq_some_iff.1 follows
    have entered := State.zone_enterGroup body
    have same := State.zone_move follows
    have innerBody := withinHypothesis rfl (State.enterGroup_isRegular regular)
      (by rw [entered]; exact body)
    have later := inductionHypothesis inside (State.move_isRegular _ _) (by rw [same]; exact body)
    rw [entered] at innerBody
    rw [same] at later
    exact ⟨⟨nonempty, innerBody.1, later.2 rfl, later.1⟩, fun _ => later.2 rfl⟩

end Reads

/-! ## Outside of groups -/

/-- What can be left of a pattern from a zone on, behind a group or not. -/
def Remains (zone : Zone) (behindGroup : Bool) (elements : Pattern) : Prop :=
  match zone with
  | .path =>
    ∃ parts : Parts, parts.AreSound ∧ parts.pattern = elements ∧
      (behindGroup = true → isAllGroups parts.path = true)
  | .awaiting =>
    ∃ parts : Parts, parts.AreSound ∧ parts.path = .nil ∧
      ∀ mark, parts.afterPath mark = .item mark elements
  | .paired =>
    ∃ parts : Parts, parts.AreSound ∧ parts.path = .nil ∧ parts.afterPath .ampersand = elements
  | .fragment =>
    ∃ body isStopped, IsBody false body ∧ body ++ Parts.ending { isStopped } = elements ∧
      (behindGroup = true → isAllGroups body = true)
  | .finished => elements = .nil

namespace Remains

theorem nil (zone : Zone) (behindGroup : Bool) : Remains zone behindGroup .nil := by
  cases zone with
  | path => exact ⟨{}, ⟨trivial, by simp, by simp⟩, rfl, fun _ => rfl⟩
  | awaiting => exact ⟨{ isOpen := true }, ⟨trivial, by simp, by simp⟩, rfl, fun _ => rfl⟩
  | paired => exact ⟨{}, ⟨trivial, by simp, by simp⟩, rfl, rfl⟩
  | fragment => exact ⟨.nil, false, trivial, rfl, fun _ => rfl⟩
  | finished => rfl

/-- A literal that is not behind a literal begins a body that can hold it. -/
theorem startsWithLiteral_left {first second : Pattern}
    (bare : startsWithLiteral (first ++ second) = false) :
    startsWithLiteral first = false := by
  cases first with
  | nil => rfl
  | item token rest => cases token <;> first | rfl | cases bare
  | group inner rest => rfl

/-- A token of a body goes in front of the body that is left. -/
theorem bodyToken {zone : Zone} {token : Token} {others : Pattern} (body : zone.isBody = true)
    (fits : token.isBodyToken zone.hasSlashes = true)
    (bare : startsWithLiteral (.item token .nil) = true → startsWithLiteral others = false)
    (remains : Remains zone false others) :
    Remains zone false (.item token others) := by
  cases zone with
  | path =>
    obtain ⟨parts, sound, rfl, _⟩ := remains
    refine ⟨{ parts with path := .item token parts.path }, ⟨?_, sound.closed, sound.fragment⟩, rfl,
      by simp⟩
    exact ⟨fits, fun literal => startsWithLiteral_left (bare literal), sound.path⟩
  | fragment =>
    obtain ⟨body, isStopped, sound, rfl, _⟩ := remains
    refine ⟨.item token body, isStopped, ?_, rfl, by simp⟩
    exact ⟨fits, fun literal => startsWithLiteral_left (bare literal), sound⟩
  | _ => cases body

theorem group {zone : Zone} {behindGroup : Bool} {inner others : Pattern}
    (body : zone.isBody = true) (nonempty : inner ≠ .nil) (innerBody : IsBody zone.hasSlashes inner)
    (remains : Remains zone true others) :
    Remains zone behindGroup (.group inner others) := by
  cases zone with
  | path =>
    obtain ⟨parts, sound, rfl, groups⟩ := remains
    refine ⟨{ parts with path := .group inner parts.path }, ⟨?_, sound.closed, sound.fragment⟩, rfl,
      fun _ => groups rfl⟩
    exact ⟨nonempty, innerBody, groups rfl, sound.path⟩
  | fragment =>
    obtain ⟨body, isStopped, sound, rfl, groups⟩ := remains
    exact ⟨.group inner body, isStopped, ⟨nonempty, innerBody, groups rfl, sound⟩, rfl,
      fun _ => groups rfl⟩
  | _ => cases body

theorem hash {behindGroup : Bool} {others : Pattern}
    (remains : Remains .fragment behindGroup others) :
    ∃ parts : Parts, parts.AreSound ∧ parts.path = .nil ∧
      ∀ mark, parts.afterPath mark = .item .hash others := by
  obtain ⟨body, isStopped, sound, rfl, _⟩ := remains
  refine ⟨{ fragment := some body, isStopped }, ⟨trivial, by simp, ?_⟩, rfl, fun _ => rfl⟩
  rintro _ ⟨⟩
  exact sound

theorem stop {behindGroup : Bool} {others : Pattern}
    (remains : Remains .finished behindGroup others) :
    ∃ parts : Parts, parts.AreSound ∧ parts.path = .nil ∧
      ∀ mark, parts.afterPath mark = .item .stop others := by
  obtain rfl : others = .nil := remains
  exact ⟨{ isStopped := true }, ⟨trivial, by simp, by simp⟩, rfl, fun _ => rfl⟩

/-- Parts without a path are all that is left of a path, if a mark comes next. -/
theorem pattern_of_path_eq_nil {parts : Parts} {elements : Pattern} (pathless : parts.path = .nil)
    (same : parts.afterPath .question = elements) :
    parts.pattern = elements := by
  rw [Parts.pattern, pathless, same]
  rfl

/-- A mark or a pair goes in front of what is left behind it. -/
theorem mark {zone next : Zone} {behindGroup later : Bool} {token : Token} {others : Pattern}
    (follows : zone.after? (.item token) = some next)
    (foreign : token.isBodyToken zone.hasSlashes = false) (remains : Remains next later others) :
    Remains zone behindGroup (.item token others) := by
  cases zone with
  | path =>
    obtain ⟨parts, sound, pathless, same⟩ :
        ∃ parts : Parts, parts.AreSound ∧ parts.path = .nil ∧
          parts.afterPath .question = .item token others := by
      cases token with
      | question =>
        cases follows
        obtain ⟨parts, sound, pathless, same⟩ := remains
        exact ⟨parts, sound, pathless, same _⟩
      | hash =>
        cases follows
        obtain ⟨parts, sound, pathless, same⟩ := remains.hash
        exact ⟨parts, sound, pathless, same _⟩
      | stop =>
        cases follows
        obtain ⟨parts, sound, pathless, same⟩ := remains.stop
        exact ⟨parts, sound, pathless, same _⟩
      | slash | literal | capture => cases foreign
      | ampersand | pair | fixed => cases follows
    exact ⟨parts, sound, pattern_of_path_eq_nil pathless same, fun _ => by rw [pathless]; rfl⟩
  | awaiting =>
    cases token with
    | pair key value =>
      cases follows
      obtain ⟨parts, sound, pathless, rfl⟩ := remains
      exact ⟨{ parts with pairs := (key, value) :: parts.pairs },
        ⟨sound.path, sound.closed, sound.fragment⟩, pathless, fun _ => rfl⟩
    | _ => cases follows
  | paired =>
    cases token with
    | ampersand =>
      cases follows
      obtain ⟨parts, sound, pathless, same⟩ := remains
      exact ⟨parts, sound, pathless, same _⟩
    | hash =>
      cases follows
      obtain ⟨parts, sound, pathless, same⟩ := remains.hash
      exact ⟨parts, sound, pathless, same _⟩
    | stop =>
      cases follows
      obtain ⟨parts, sound, pathless, same⟩ := remains.stop
      exact ⟨parts, sound, pathless, same _⟩
    | _ => cases follows
  | fragment =>
    cases token with
    | stop =>
      cases follows
      obtain rfl : others = .nil := remains
      exact ⟨.nil, true, trivial, rfl, fun _ => rfl⟩
    | literal | capture => cases foreign
    | _ => cases follows
  | finished => cases token <;> cases follows

end Remains

/-- Outside of groups a level reads as something that can be left from its zone on. -/
theorem Reads.remains {inGroup : Bool} {state final : State} {input rest : Text}
    {elements : Pattern} (reads : Reads inGroup state input elements final rest)
    (outside : inGroup = false) (regular : state.IsRegular) :
    Remains state.zone (isGroup state.previous) elements := by
  induction reads with
  | done => exact .nil _ _
  | @token _ state _ _ _ _ _ _ token others
      plain scanned unmarked stepped remaining inductionHypothesis =>
    obtain ⟨follows, admits, rfl⟩ := (State.step_eq_ok_iff regular).1 stepped
    obtain ⟨zone, follows⟩ := Option.isSome_iff_exists.1 follows
    have later := inductionHypothesis outside (State.move_isRegular _ _)
    rw [State.zone_move follows] at later
    cases fits : token.isBodyToken state.zone.hasSlashes with
    | true =>
      obtain ⟨body, rfl⟩ := Zone.eq_of_after?_of_isBodyToken follows fits
      rw [admits.1 (Token.isBodyToken_true fits)]
      exact .bodyToken body fits (remaining.startsWithLiteral_of_literal scanned) later
    | false => exact .mark follows fits later
  | @group _ state _ _ _ _ _ _ _ inner others
      opening within nonempty stepped remaining _ inductionHypothesis =>
    obtain ⟨follows, _, rfl⟩ := (State.step_eq_ok_iff regular).1 stepped
    obtain ⟨zone, follows⟩ := Option.isSome_iff_exists.1 follows
    obtain ⟨body, rfl⟩ := Zone.after?_group_eq_some_iff.1 follows
    have entered := State.zone_enterGroup body
    have innerBody := (within.isBody rfl (State.enterGroup_isRegular regular)
      (by rw [entered]; exact body)).1
    have later := inductionHypothesis outside (State.move_isRegular _ _)
    rw [State.zone_move follows] at later
    rw [entered] at innerBody
    exact .group body nonempty innerBody later

end TypedRoutes.Pattern

namespace TypedRoutes

open TypedRoutes.Pattern

/-- The tokens of a pattern that is read are sound. -/
theorem Pattern.tokens_isSound_of_read {text : Text} {pattern : Pattern}
    (accepted : Pattern.read text = .ok pattern) :
    ∀ token ∈ pattern.flatten, token.IsSound := by
  obtain ⟨_, final, reads⟩ := read_eq_ok_iff.1 accepted
  exact reads.tokens_isSound

/-- A pattern that is read consists of its parts. -/
theorem Pattern.exists_parts_of_read {text : Text} {pattern : Pattern}
    (accepted : Pattern.read text = .ok pattern) :
    ∃ parts : Parts, parts.AreSound ∧ parts.pattern = pattern := by
  obtain ⟨_, final, reads⟩ := read_eq_ok_iff.1 accepted
  obtain ⟨parts, sound, same, _⟩ := reads.remains rfl fun _ => rfl
  exact ⟨parts, sound, same⟩

theorem Pattern.hasOrderedMarks_of_read {text : Text} {pattern : Pattern}
    (accepted : Pattern.read text = .ok pattern) :
    pattern.HasOrderedMarks := by
  obtain ⟨parts, sound, rfl⟩ := Pattern.exists_parts_of_read accepted
  exact Parts.hasOrderedMarks sound

/-- Whatever text is read, the pattern is not empty, follows the grammar, and has its marks in
their places. -/
theorem Pattern.isWellFormed_of_read {text : Text} {pattern : Pattern}
    (accepted : Pattern.read text = .ok pattern) :
    pattern ≠ .nil ∧ pattern.IsWellFormed ∧ pattern.HasOrderedMarks := by
  have parts := Pattern.exists_parts_of_read accepted
  have tokens := Pattern.tokens_isSound_of_read accepted
  have marks := Pattern.hasOrderedMarks_of_read accepted
  obtain ⟨nonempty, final, reads⟩ := read_eq_ok_iff.1 accepted
  refine ⟨?_, ⟨parts, tokens, reads.isChain fun _ => rfl⟩, marks⟩
  intro empty
  rw [empty] at reads
  cases reads
  exact nonempty rfl

/-- The law at a pattern with a group in a group, a query and a stop. -/
theorem Pattern.isWellFormed_of_read_nested :
    ∃ pattern, Pattern.read "/a(/{id}(-b))?q={v}!".toList = .ok pattern ∧
      pattern ≠ .nil ∧ pattern.IsWellFormed ∧ pattern.HasOrderedMarks := by
  have readable : (Pattern.read "/a(/{id}(-b))?q={v}!".toList).toOption.isSome = true := by
    decide +kernel
  cases accepted : Pattern.read "/a(/{id}(-b))?q={v}!".toList with
  | error refusal =>
    rw [accepted] at readable
    cases readable
  | ok pattern => exact ⟨pattern, rfl, Pattern.isWellFormed_of_read accepted⟩

end TypedRoutes
