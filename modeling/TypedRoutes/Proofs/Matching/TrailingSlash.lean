import TypedRoutes.Proofs.Matching.Parting
import TypedRoutes.Proofs.Matching.Tolerance
import TypedRoutes.Proofs.Program.Condensing

/-!
Contract: what a tolerated slash means for a pattern that ends in a literal.

Where such a pattern has neither query nor fragment, its two programs are the same but for an
optional slash behind the last fixed text. No capture looks beyond that text, so both programs take
the same from a route, and the one without the slash leaves what the other one may use up.

Owns: programs that differ in a last slash, and the matches of both. Does not own: slashes before a
mark or behind groups.
-/

set_option autoImplicit false

namespace TypedRoutes.Matching

open TypedRoutes.Text TypedRoutes.Pattern TypedRoutes.Program

/-! ## Programs -/

/-- Programs that end in the same fixed text, which one of them has an optional slash behind. -/
def AddsSlash (strict tolerant : Program) : Prop :=
  ∃ begun text,
    strict = begun ++ .item (.fixed text) .nil ∧
      tolerant = begun ++ .item (.fixed text) (optionalSlash .nil)

section Ahead

variable {strict tolerant : Program}

theorem AddsSlash.item (adds : AddsSlash strict tolerant) (instruction : Instruction) :
    AddsSlash (.item instruction strict) (.item instruction tolerant) := by
  obtain ⟨begun, text, rfl, rfl⟩ := adds
  exact ⟨.item instruction begun, text, rfl, rfl⟩

theorem AddsSlash.group (adds : AddsSlash strict tolerant) (inner : Program) :
    AddsSlash (.group inner strict) (.group inner tolerant) := by
  obtain ⟨begun, text, rfl, rfl⟩ := adds
  exact ⟨.group inner begun, text, rfl, rfl⟩

theorem AddsSlash.flush (adds : AddsSlash strict tolerant) (run : Option Text) :
    AddsSlash (flush run strict) (flush run tolerant) := by
  cases run with
  | none => exact adds
  | some text => exact adds.item (.fixed text)

end Ahead

/-- A path does not end before what ends in a literal and has no mark. -/
theorem endsPath_append_literal {front : Pattern} (unmarked : hasMark front.flatten = false)
    (last : Text) :
    endsPath (front ++ .item (.literal last) .nil) = false := by
  cases front with
  | nil => rfl
  | group inner rest => rfl
  | item token rest =>
    cases token with
    | question => cases unmarked
    | hash => cases unmarked
    | _ => rfl

/-- A pattern that ends in a literal and has no mark is assembled to programs that differ in a last
slash. -/
theorem addsSlash_assemble {front : Pattern} (sound : ∀ token ∈ front.flatten, token.IsSound)
    (unmarked : hasMark front.flatten = false) (last : Text) (run : Option Text) :
    AddsSlash (assemble false false run (front ++ .item (.literal last) .nil))
      (assemble true false run (front ++ .item (.literal last) .nil)) := by
  induction front generalizing run with
  | nil => exact ⟨.nil, run.getD [] ++ last, rfl, rfl⟩
  | group inner rest _ inductionHypothesis =>
    have soundRest : ∀ token ∈ rest.flatten, token.IsSound := fun token member =>
      sound token (List.mem_append_right _ member)
    have unmarkedRest : hasMark rest.flatten = false := by
      rw [Grouped.flatten, hasMark_append, Bool.or_eq_false_iff] at unmarked
      exact unmarked.2
    have goesOn : (rest ++ .item (.literal last) .nil).isEmpty = false := by
      cases rest <;> rfl
    rw [Grouped.group_append, assemble, assemble, goesOn]
    exact ((inductionHypothesis soundRest unmarkedRest none).group _).flush run
  | item token rest inductionHypothesis =>
    obtain ⟨own, soundRest⟩ := List.forall_mem_cons.1 sound
    have passed : isMarkedBy false token = false ∧ hasMark rest.flatten = false := by
      cases token with
      | question => cases unmarked
      | hash => cases unmarked
      | _ => exact ⟨rfl, unmarked⟩
    obtain ⟨still, unmarkedRest⟩ := passed
    have later := inductionHypothesis soundRest unmarkedRest
    rw [Grouped.item_append]
    cases is : tokenPiece token with
    | fixed fixed =>
      have inside : isTolerant false token (rest ++ .item (.literal last) .nil) = false := by
        rw [isTolerant, endsPath_append_literal unmarkedRest, Bool.and_false]
      rw [assemble_of_fixed own is, assemble_of_fixed own is, inside, still]
      exact later (extend run fixed)
    | capture ahead block =>
      cases token with
      | capture block => exact ((later none).item _).flush run
      | pair key value =>
        cases value with
        | capture block => exact ((later none).item _).flush (extend run (key ++ ['=']))
        | literal text => cases is
      | _ => cases is
    | stop =>
      obtain rfl := eq_stop_of_tokenPiece is
      exact ((later none).item _).flush run

/-! ## Runs -/

/-- An optional slash goes to the end exactly from there and from a last slash. -/
theorem run_lastSlash_iff {left : Text} {entries : List Entry} :
    run false (optionalSlash .nil) { rest := left } = some (entries, { rest := [] }) ↔
      entries = [] ∧ (left = [] ∨ left = ['/']) := by
  have ended (rest : Text) :
      run false .nil { rest } = some (entries, { rest := [] }) ↔ entries = [] ∧ rest = [] := by
    simp [run, eq_comm]
  rw [run_optionalSlash_iff]
  simp only [ended]
  constructor
  · rintro (⟨_, rfl, nothing, rfl⟩ | ⟨_, nothing, rfl⟩)
    · exact ⟨nothing, .inr rfl⟩
    · exact ⟨nothing, .inl rfl⟩
  · rintro ⟨nothing, rfl | rfl⟩
    · exact .inr ⟨by simp, nothing, rfl⟩
    · exact .inl ⟨[], rfl, nothing, rfl⟩

/-- A run with a tolerated slash uses up a route exactly if the run without it does or leaves a
slash, and has the same entries. -/
theorem run_addsSlash_iff {strict tolerant : Program} {route : Text} {entries : List Entry}
    (adds : AddsSlash strict tolerant) :
    run false tolerant { rest := route } = some (entries, { rest := [] }) ↔
      ∃ left, run false strict { rest := route } = some (entries, { rest := left }) ∧
        (left = [] ∨ left = ['/']) := by
  obtain ⟨begun, text, rfl, rfl⟩ := adds
  rw [run_append_fixed, Option.bind_eq_some_iff]
  constructor
  · rintro ⟨⟨first, next⟩, ran, further⟩
    obtain ⟨⟨more, last⟩, slashed, same⟩ := Option.map_eq_some_iff.1 further
    cases same
    have whole : next = { rest := next.rest } := Cursor.eq_of_run ran
    rw [whole] at slashed ran
    obtain ⟨rfl, ended⟩ := run_lastSlash_iff.1 slashed
    rw [List.append_nil]
    exact ⟨next.rest, ran, ended⟩
  · rintro ⟨left, ran, ended⟩
    refine ⟨_, ran, ?_⟩
    dsimp only
    rw [run_lastSlash_iff.2 ⟨rfl, ended⟩, Option.map_some, List.append_nil]

/-! ## Matches -/

namespace Matcher

theorem matchStart?_eq_some_iff_run {matcher : Matcher} {route rest : Text} {captures : Captures}
    (sensitive : matcher.settings.caseInsensitive = false) :
    matcher.matchStart? route = some (captures, rest) ↔
      run false matcher.program { rest := route } = some (captures.entries, { rest }) := by
  unfold matchStart? start
  rw [sensitive, Option.map_eq_some_iff]
  constructor
  · rintro ⟨⟨entries, last⟩, ran, same⟩
    cases same
    have whole : last = { rest := last.rest } := Cursor.eq_of_run ran
    rw [ran, ← whole]
  · intro ran
    exact ⟨_, ran, rfl⟩

/-- Let a pattern end in a literal and have no mark of a query or a fragment. With tolerated slashes
a whole route matches exactly if without them its start does and nothing is left or a slash. -/
theorem match?_tolerant_iff_matchStart? {text route last : Text} {front : Pattern}
    {strict tolerant : Matcher} {captures : Captures}
    (compiledStrict : compile text ⟨true, true, false⟩ = .ok strict)
    (compiledTolerant : compile text ⟨false, true, false⟩ = .ok tolerant)
    (ends : strict.pattern = front ++ .item (.literal last) .nil)
    (unmarked : hasMark strict.pattern.flatten = false) :
    tolerant.match? route = some captures ↔
      ∃ rest, strict.matchStart? route = some (captures, rest) ∧ (rest = [] ∨ rest = ['/']) := by
  obtain ⟨pattern, read, rfl⟩ := compile_eq_ok_iff.1 compiledStrict
  obtain ⟨other, readAgain, rfl⟩ := compile_eq_ok_iff.1 compiledTolerant
  rw [read] at readAgain
  cases readAgain
  obtain rfl : pattern = front ++ .item (.literal last) .nil := ends
  have sound : ∀ token ∈ front.flatten, token.IsSound := by
    intro token member
    apply Pattern.tokens_isSound_of_read read
    rw [Grouped.flatten_append]
    exact List.mem_append_left _ member
  have unmarkedFront : hasMark front.flatten = false := by
    rw [Grouped.flatten_append, hasMark_append, Bool.or_eq_false_iff] at unmarked
    exact unmarked.1
  rw [match?_eq_some_iff_run rfl rfl]
  simp only [matchStart?_eq_some_iff_run]
  exact run_addsSlash_iff (addsSlash_assemble sound unmarkedFront last none)

/-- The equivalence for a pattern with captures of each extent in front of its literal, on a route
that goes on with a slash. -/
theorem match?_tolerant_iff_matchStart?_page :
    let text := "/{*}/{2:pair}/{page}.html".toList
    let route := "/a/b/c/index.html/".toList
    let captures : Captures :=
      ⟨[⟨none, "a".toList⟩, ⟨some "pair".toList, "b/c".toList⟩,
        ⟨some "page".toList, "index".toList⟩]⟩
    ∃ strict tolerant, compile text ⟨true, true, false⟩ = .ok strict ∧
      compile text ⟨false, true, false⟩ = .ok tolerant ∧
        hasMark strict.pattern.flatten = false ∧
          strict.matchStart? route = some (captures, ['/']) ∧
            tolerant.match? route = some captures := by
  intro text route captures
  let front : Pattern :=
    .item .slash (.item (.capture ⟨.many, none, none⟩) (.item .slash
      (.item (.capture ⟨.exactly 2, some "pair".toList, none⟩) (.item .slash
        (.item (.capture ⟨.one, some "page".toList, none⟩) .nil)))))
  let pattern : Pattern := front ++ .item (.literal ".html".toList) .nil
  have read : Pattern.read text = .ok pattern := by
    decide +kernel
  have compiledStrict := compile_of_read read ⟨true, true, false⟩
  have compiledTolerant := compile_of_read read ⟨false, true, false⟩
  have unmarked : hasMark pattern.flatten = false := by
    decide
  have started : Matcher.matchStart? ⟨text, pattern, ofPattern false pattern, ⟨true, true, false⟩⟩
      route = some (captures, ['/']) := by
    decide +kernel
  exact ⟨_, _, compiledStrict, compiledTolerant, unmarked, started,
    (match?_tolerant_iff_matchStart? compiledStrict compiledTolerant rfl unmarked).2
      ⟨['/'], started, .inr rfl⟩⟩

end Matcher

end TypedRoutes.Matching
