import TypedRoutes.Proofs.Pattern.Edges
import TypedRoutes.Proofs.Pattern.Soundness

/-!
Contract: where a mark of the query has its pair behind it.

Behind a mark of the query a step takes nothing but a pair. The end of the text is no step, so a
text may end there, and the pattern then ends in a mark without a pair. No other mark is without
one.

Owns: patterns whose marks have their pairs, and which texts they are read from.
-/

set_option autoImplicit false

namespace TypedRoutes.Pattern

open TypedRoutes.Text

/-- Whether a token calls for a query pair behind it. -/
def Token.callsForPair : Token → Bool
  | .question | .ampersand => true
  | _ => false

def startsWithPair : Pattern → Bool
  | .item (.pair _ _) _ => true
  | _ => false

/-- Every mark of the query, at any depth, has a query pair right behind it. -/
def HasPairs : Pattern → Prop
  | .nil => True
  | .item token rest => (token.callsForPair = true → startsWithPair rest = true) ∧ HasPairs rest
  | .group inner rest => HasPairs inner ∧ HasPairs rest

theorem IsBody.hasPairs {slashes : Bool} {pattern : Pattern} (body : IsBody slashes pattern) :
    HasPairs pattern := by
  induction pattern with
  | nil => trivial
  | item token rest inductionHypothesis =>
    refine ⟨fun calls => ?_, inductionHypothesis body.2.2⟩
    have fits := Token.isBodyToken_true body.1
    cases token with
    | question | ampersand => cases fits
    | _ => cases calls
  | group inner rest innerHypothesis inductionHypothesis =>
    exact ⟨innerHypothesis body.2.1, inductionHypothesis body.2.2.2⟩

namespace Zone

/-- A mark of the query leads to where a pair has to come, and nothing else does. -/
theorem eq_awaiting_iff {zone next : Zone} {token : Token}
    (follows : zone.after? (.item token) = some next) :
    next = .awaiting ↔ token.callsForPair = true := by
  cases zone <;> cases token <;> simp_all [Token.callsForPair]
  all_goals
    subst follows
    simp

/-- Where a pair has to come, only a pair does. -/
theorem startsWithPair_of_after? {next : Zone} {token : Token} (rest : Pattern)
    (follows : Zone.awaiting.after? (.item token) = some next) :
    startsWithPair (.item token rest) = true := by
  cases token with
  | pair key value => rfl
  | _ => cases follows

end Zone

/-- What is read from a zone on has its pairs, unless it ends where one has to come. -/
theorem Reads.hasPairs_iff_zone {inGroup : Bool} {state final : State} {input rest : Text}
    {elements : Pattern} (reads : Reads inGroup state input elements final rest)
    (regular : state.IsRegular) :
    (state.zone = .awaiting → startsWithPair elements = true) ∧ HasPairs elements ↔
      final.zone ≠ .awaiting := by
  induction reads with
  | @done _ state _ => simp [startsWithPair, HasPairs]
  | @token _ state next _ _ _ _ _ token others _ _ _ stepped _ inductionHypothesis =>
    have follows := State.after?_of_step regular stepped
    have awaited : state.zone = .awaiting → startsWithPair (.item token others) = true := by
      intro awaits
      rw [awaits] at follows
      exact Zone.startsWithPair_of_after? others follows
    rw [← inductionHypothesis (State.step_isRegular regular stepped), Zone.eq_awaiting_iff follows]
    constructor
    · rintro ⟨_, paired⟩
      exact paired
    · intro paired
      exact ⟨awaited, paired⟩
  | @group _ state _ _ next _ _ _ _ inner others _ within _ stepped _ _ inductionHypothesis =>
    obtain ⟨body, same⟩ := Zone.after?_group_eq_some_iff.1 (State.after?_of_step regular stepped)
    have notAwaiting : state.zone ≠ .awaiting := by
      intro awaits
      rw [awaits] at body
      cases body
    have innerBody := within.isBody rfl (State.enterGroup_isRegular regular)
      (by rwa [State.zone_enterGroup body])
    rw [← inductionHypothesis (State.step_isRegular regular stepped), same]
    constructor
    · rintro ⟨_, _, paired⟩
      exact ⟨fun awaits => absurd awaits notAwaiting, paired⟩
    · rintro ⟨_, paired⟩
      exact ⟨fun awaits => absurd awaits notAwaiting, innerBody.1.hasPairs, paired⟩

end TypedRoutes.Pattern

namespace TypedRoutes

open TypedRoutes.Text TypedRoutes.Pattern

/-- Every mark of the query has its pair right behind it, unless the text ends in the mark. -/
theorem Pattern.hasPairs_iff {text : Text} {pattern : Pattern}
    (accepted : Pattern.read text = .ok pattern) :
    HasPairs pattern ↔ text.getLast? ≠ some '?' ∧ text.getLast? ≠ some '&' := by
  obtain ⟨_, final, reads⟩ := read_eq_ok_iff.1 accepted
  obtain ⟨more, behind, whole, reached, _, _, level⟩ := reads.exists_reaches .start nofun rfl rfl
  rw [List.append_nil] at whole
  have ends : behind.level.state = final := congrArg Level.state level
  have read := reads.hasPairs_iff_zone fun _ => rfl
  rw [← ends, Ne, reached.zone_eq_awaiting_iff, List.nil_append, ← whole, not_or] at read
  rw [← read]
  constructor
  · intro paired
    exact ⟨nofun, paired⟩
  · rintro ⟨_, paired⟩
    exact paired

/-- The law at a pattern with two query pairs and a group before them. -/
theorem Pattern.hasPairs_iff_search :
    ∃ pattern, Pattern.read "/a(/\x7bb\x7d)?c=d&e=\x7b\x7d".toList = .ok pattern ∧
      (HasPairs pattern ↔
        "/a(/\x7bb\x7d)?c=d&e=\x7b\x7d".toList.getLast? ≠ some '?' ∧
          "/a(/\x7bb\x7d)?c=d&e=\x7b\x7d".toList.getLast? ≠ some '&') := by
  have readable : (Pattern.read "/a(/\x7bb\x7d)?c=d&e=\x7b\x7d".toList).isOk = true := by
    decide +kernel
  cases accepted : Pattern.read "/a(/\x7bb\x7d)?c=d&e=\x7b\x7d".toList with
  | error refusal =>
    rw [accepted] at readable
    cases readable
  | ok pattern => exact ⟨pattern, rfl, Pattern.hasPairs_iff accepted⟩

/-- A text that ends in the mark of the query is read as a pattern without its pair. -/
theorem Pattern.not_hasPairs_open :
    ∃ pattern, Pattern.read "/a?".toList = .ok pattern ∧ ¬ HasPairs pattern := by
  have accepted : Pattern.read "/a?".toList =
      .ok (.item .slash (.item (.literal ['a']) (.item .question .nil))) := by
    cbv
  refine ⟨_, accepted, ?_⟩
  rintro ⟨_, _, ends, _⟩
  cases ends rfl

end TypedRoutes
