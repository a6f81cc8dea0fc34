import TypedRoutes.Proofs.Pattern.Soundness
import TypedRoutes.Proofs.Table.Supply

/-!
Contract: a match of a whole route is a way to cut the route into values.

The engine chooses the end of each capture once and for all. Where every capture ends at a mark that
its text cannot hold, or at the end of the route, nothing is lost by that: a route is matched if it
can be cut at all into the fixed text of the pattern and legal values for its captures, and then
with these values.

Owns: the text of a pattern with values in the place of its captures, and the equivalence of
matching and cutting.
-/

set_option autoImplicit false

namespace TypedRoutes.Matching

open TypedRoutes.Text TypedRoutes.Pattern TypedRoutes.Program TypedRoutes.Table

/-- The text of a pattern without groups, with a value in the place of each capture. -/
def spelled : Pattern → List Text → Text
  | .nil, _ => []
  | .item token rest, values =>
    match tokenPiece token with
    | .fixed text => text ++ spelled rest values
    | .capture ahead _ => ahead ++ (values.headD [] ++ spelled rest values.tail)
    | .stop => spelled rest values
  | .group _ rest, values => spelled rest values

theorem spelled_of_fixed {token : Token} {text : Text} (is : tokenPiece token = .fixed text)
    (rest : Pattern) (values : List Text) :
    spelled (.item token rest) values = text ++ spelled rest values := by
  simp [spelled, is]

theorem spelled_of_capture {token : Token} {ahead : Text} {block : Capture}
    (is : tokenPiece token = .capture ahead block) (rest : Pattern) (value : Text)
    (more : List Text) :
    spelled (.item token rest) (value :: more) = ahead ++ (value ++ spelled rest more) := by
  simp [spelled, is]

def entriesFor (blocks : List Capture) (values : List Text) : List Entry :=
  (blocks.zip values).map fun (block, value) => ⟨block.name, value⟩

theorem entriesOf_zip_some (blocks : List Capture) (values : List Text) :
    entriesOf (blocks.zip (values.map some)) = entriesFor blocks values := by
  induction blocks generalizing values with
  | nil => rfl
  | cons block rest inductionHypothesis =>
    cases values with
    | nil => rfl
    | cons value more => exact congrArg (List.cons ⟨block.name, value⟩) (inductionHypothesis more)

theorem isLegal_of_takes {block : Capture} {text left : Text} (sound : block.IsSound)
    (takes : Takes block text left) :
    IsLegal block text := by
  obtain ⟨_, leading, last, joined, count, solid, inside, empty⟩ := takes
  have counted (segments : Int) (spans : block.extent = .exactly segments) : 1 ≤ segments :=
    (sound.counted segments spans).1
  exact isLegal_of_segments counted joined count solid inside fun nothing => (empty nothing).1

/-- A capture of many segments that may be empty has nothing but the stop behind it. -/
theorem isLast_of_closes {block : Capture} {rest : Pattern} {filled : List (Capture × Option Text)}
    (many : block.isMany = true) (closed : closes block rest = true)
    (trace : Trace tokenPiece rest filled [] []) :
    isLast rest = true := by
  cases rest with
  | nil => rfl
  | group inner others => cases closed
  | item token others =>
    cases token with
    | stop => rfl
    | question =>
      obtain ⟨more, same, _⟩ := exists_of_fixed rfl trace
      cases same
    | hash =>
      obtain ⟨more, same, _⟩ := exists_of_fixed rfl trace
      cases same
    | slash => simp [closes, many] at closed
    | ampersand => simp [closes, many] at closed
    | _ => cases closed

/-- A trace of a pattern without groups cuts the route into legal values. -/
theorem exists_values_of_trace {pattern : Pattern} {filled : List (Capture × Option Text)}
    {text : Text} (delimited : IsDelimited pattern)
    (sound : ∀ token ∈ pattern.flatten, token.IsSound)
    (trace : Trace tokenPiece pattern filled text []) :
    ∃ values, Admits pattern values ∧ filled = pattern.captures.zip (values.map some) ∧
      (∀ pair ∈ pattern.captures.zip values, isAllowed false pair.1.allowed pair.2 = true) ∧
        text = spelled pattern values := by
  induction pattern generalizing filled text with
  | nil =>
    cases trace
    exact ⟨[], .nil, rfl, by simp, rfl⟩
  | group inner rest => cases delimited
  | item token rest inductionHypothesis =>
    obtain ⟨closed, restDelimited⟩ := delimited
    obtain ⟨tokenSound, restSound⟩ := List.forall_mem_cons.1 sound
    rw [Filling.captures_item]
    cases trace with
    | fixed is remaining =>
      have own := Filling.capture?_eq_none_of_tokenPiece is
      obtain ⟨values, admits, same, allowed, written⟩ :=
        inductionHypothesis restDelimited restSound remaining
      refine ⟨values, .other own admits, ?_, ?_, ?_⟩
      · rw [own]
        exact same
      · rw [own]
        exact allowed
      · rw [spelled_of_fixed is, written]
    | stop is ended remaining =>
      obtain rfl := eq_stop_of_tokenPiece is
      obtain ⟨values, admits, same, allowed, written⟩ :=
        inductionHypothesis restDelimited restSound remaining
      exact ⟨values, .other rfl admits, same, allowed, written⟩
    | @capture _ _ _ block ahead value more _ is takes remaining =>
      have own := Filling.capture?_eq_of_tokenPiece is
      obtain ⟨values, admits, same, allowed, written⟩ :=
        inductionHypothesis restDelimited restSound remaining
      have legal := isLegal_of_takes (Filling.isSound_of_tokenPiece tokenSound is) takes
      have ending : value = [] → isLast rest = true := by
        intro nothing
        obtain ⟨leading, last, joined, _, solid, _, empty⟩ := takes.segments
        have parts : leading.flatMap (· ++ ['/']) = [] ∧ last = [] := by
          rw [nothing, join_append_singleton] at joined
          exact List.append_eq_nil_iff.1 joined.symm
        obtain ⟨many, ended⟩ := empty parts.2
        rw [List.append_nil] at ended
        subst ended
        exact isLast_of_closes many (closed block own) remaining
      rw [own]
      refine ⟨value :: values, .capture own legal ending admits, ?_, ?_, ?_⟩
      · rw [same]
        rfl
      · exact List.forall_mem_cons.2 ⟨takes.isAllowed, allowed⟩
      · rw [spelled_of_capture is, written]

/-- A pattern with legal values for its captures is traced by the text that they spell. -/
theorem trace_of_admits {pattern : Pattern} {values : List Text}
    (sound : ∀ token ∈ pattern.flatten, token.IsSound)
    (ordered : pattern.flatten.Pairwise fun before after => before.mayPrecede after = true)
    (admits : Admits pattern values)
    (allowed : ∀ pair ∈ pattern.captures.zip values, isAllowed false pair.1.allowed pair.2 = true) :
    Trace tokenPiece pattern (pattern.captures.zip (values.map some)) (spelled pattern values)
      [] := by
  induction pattern generalizing values with
  | nil =>
    cases admits
    exact .nil
  | group inner rest => cases admits
  | item token rest inductionHypothesis =>
    obtain ⟨tokenSound, restSound⟩ := List.forall_mem_cons.1 sound
    obtain ⟨before, restOrdered⟩ := List.pairwise_cons.1 ordered
    rw [Filling.captures_item] at allowed ⊢
    cases is : tokenPiece token with
    | fixed text =>
      have own := Filling.capture?_eq_none_of_tokenPiece is
      rw [own] at allowed ⊢
      rw [spelled_of_fixed is]
      exact .fixed is (inductionHypothesis restSound restOrdered (admits.of_other own) allowed)
    | stop =>
      obtain rfl := eq_stop_of_tokenPiece is
      have later := admits.of_other rfl
      obtain rfl := Filling.eq_nil_of_stop before later
      cases later
      exact .stop is rfl .nil
    | capture ahead block =>
      have own := Filling.capture?_eq_of_tokenPiece is
      rw [own] at allowed ⊢
      obtain ⟨value, more, rfl, legal, ending, later⟩ := admits.of_capture own
      obtain ⟨ownAllowed, restAllowed⟩ := List.forall_mem_cons.1 allowed
      have remaining := inductionHypothesis restSound restOrdered later restAllowed
      have takes : Takes block value (spelled rest more ++ []) :=
        takes_of_isLegal (Filling.isSound_of_tokenPiece tokenSound is) legal ownAllowed
          fun nothing => by
            rw [Filling.eq_nil_of_isLast (ending nothing) remaining]
            rfl
      rw [spelled_of_capture is]
      exact .capture is takes remaining

namespace Matcher

/-- A matcher for a pattern text has its pattern and the program of it. -/
theorem compile_eq_ok_iff {text : Text} {settings : Settings} {matcher : Matcher} :
    compile text settings = .ok matcher ↔
      ∃ pattern, Pattern.read text = .ok pattern ∧
        matcher = ⟨text, pattern, Program.ofPattern (!settings.strict) pattern, settings⟩ := by
  unfold compile
  rw [map_eq_ok_iff]
  constructor
  · rintro ⟨pattern, read, same⟩
    exact ⟨pattern, read, same.symm⟩
  · rintro ⟨pattern, read, same⟩
    exact ⟨pattern, read, same.symm⟩

theorem compile_of_read {text : Text} {pattern : Pattern} (read : Pattern.read text = .ok pattern)
    (settings : Settings) :
    compile text settings =
      .ok ⟨text, pattern, Program.ofPattern (!settings.strict) pattern, settings⟩ :=
  compile_eq_ok_iff.2 ⟨pattern, read, rfl⟩

/-- Where each capture ends at a mark or at the end, a route is matched exactly if it can be cut
into the fixed text of the pattern and legal, allowed values for its captures. The entries of the
match are these values. -/
theorem match?_eq_some_iff_spelled {text route : Text} {matcher : Matcher} {entries : List Entry}
    (compiled : compile text ⟨true, true, false⟩ = .ok matcher)
    (delimited : IsDelimited matcher.pattern) :
    matcher.match? route = some ⟨entries⟩ ↔
      ∃ values, Admits matcher.pattern values ∧
        (∀ pair ∈ matcher.pattern.captures.zip values,
          isAllowed false pair.1.allowed pair.2 = true) ∧
          route = spelled matcher.pattern values ∧
            entries = entriesFor matcher.pattern.captures values := by
  obtain ⟨pattern, read, same⟩ := compile_eq_ok_iff.1 compiled
  have settings : matcher.settings = ⟨true, true, false⟩ := by rw [same]
  have again : compile matcher.text matcher.settings = .ok matcher := by
    rw [same] at compiled ⊢
    exact compiled
  have read : Pattern.read text = .ok matcher.pattern := by
    rw [same]
    exact read
  have sound := Pattern.tokens_isSound_of_read read
  have ordered := (Pattern.hasOrderedMarks_of_read read).ordered
  rw [match?_eq_some_iff]
  constructor
  · intro matched
    obtain ⟨filled, trace, listed⟩ := exists_trace_of_verdict again settings matched
    obtain ⟨values, admits, rfl, allowed, spells⟩ := exists_values_of_trace delimited sound trace
    rw [entriesOf_zip_some] at listed
    exact ⟨values, admits, allowed, spells, congrArg Captures.entries listed⟩
  · rintro ⟨values, admits, allowed, rfl, rfl⟩
    have trace := trace_of_admits sound ordered admits allowed
    have sensitive : matcher.settings.caseInsensitive = false := by rw [settings]
    rw [← entriesOf_zip_some]
    exact verdict_of_trace again sensitive delimited trace

/-- The equivalence at captures of every extent, of which the last one is empty. -/
theorem match?_eq_some_iff_spelled_empty :
    let text := "/{a}/{2}?q={w(x|y)}#{*:f}!".toList
    let values := ["u".toList, "b/c".toList, "x".toList, []]
    ∃ matcher, compile text ⟨true, true, false⟩ = .ok matcher ∧ IsDelimited matcher.pattern ∧
      Admits matcher.pattern values ∧
        "/u/b/c?q=x#".toList = spelled matcher.pattern values ∧
          matcher.match? "/u/b/c?q=x#".toList =
            some ⟨entriesFor matcher.pattern.captures values⟩ := by
  intro text values
  let pattern : Pattern :=
    .item .slash (.item (.capture ⟨.one, some "a".toList, none⟩) (.item .slash
      (.item (.capture ⟨.exactly 2, none, none⟩) (.item .question
        (.item (.pair "q".toList
            (.capture ⟨.one, some "w".toList, some ["x".toList, "y".toList]⟩))
          (.item .hash (.item (.capture ⟨.many, some "f".toList, none⟩) (.item .stop .nil))))))))
  have read : Pattern.read text = .ok pattern := by
    decide +kernel
  have compiled := compile_of_read read ⟨true, true, false⟩
  have delimited : IsDelimited pattern := by decide
  have fine (part : String)
      (nonempty : part.toList ≠ [])
      (inside : part.toList.all (isCaptureChar false) = true) :
      part.toList ≠ [] ∧ ∀ c ∈ part.toList, isCaptureChar false c = true :=
    ⟨nonempty, List.all_eq_true.1 inside⟩
  have parts : IsLegal ⟨.exactly 2, none, none⟩ "b/c".toList :=
    ⟨["b".toList, "c".toList], rfl, rfl, List.forall_mem_cons.2 ⟨fine "b" (by decide) rfl,
      List.forall_mem_cons.2 ⟨fine "c" (by decide) rfl, List.forall_mem_nil _⟩⟩⟩
  have admits : Admits pattern values :=
    .other rfl (.capture rfl (fine "u" (by decide) rfl) (by decide) (.other rfl
      (.capture rfl parts (by decide) (.other rfl
        (.capture rfl (fine "x" (by decide) rfl) (by decide) (.other rfl
          (.capture rfl (List.forall_mem_nil _) (fun _ => rfl) (.other rfl .nil))))))))
  exact ⟨_, compiled, delimited, admits, rfl,
    (match?_eq_some_iff_spelled compiled delimited).2
      ⟨values, admits, by decide +kernel, rfl, rfl⟩⟩

end Matcher

end TypedRoutes.Matching
