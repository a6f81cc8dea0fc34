import TypedRoutes.Proofs.Matching.Trace

/-!
Contract: programs are parted behind fixed text.

A capture looks ahead for its stops, but never beyond the first fixed text at its own level. What a
program does up to some fixed text is therefore the same whatever comes behind it, and the rest of
the program goes on from there.

Owns: the stops and the run of a program up to fixed text. Does not own: where a run begins.
-/

set_option autoImplicit false

namespace TypedRoutes.Matching

open TypedRoutes.Text TypedRoutes.Pattern TypedRoutes.Program

/-- No capture looks beyond fixed text behind it. -/
theorem stops_append_fixed (begun : Program) (text : Text) (behind : Program) :
    stops (begun ++ .item (.fixed text) behind) = stops (begun ++ .item (.fixed text) .nil) := by
  induction begun with
  | nil => rfl
  | item instruction rest _ => cases instruction <;> rfl
  | group inner rest _ inductionHypothesis =>
    rw [Grouped.group_append, Grouped.group_append, stops, stops, inductionHypothesis]

/-- A program runs up to fixed text, and what is behind the text goes on from there. -/
theorem run_append_fixed (fold : Bool) (begun : Program) (text : Text) (behind : Program)
    (cursor : Cursor) :
    run fold (begun ++ .item (.fixed text) behind) cursor =
      (run fold (begun ++ .item (.fixed text) .nil) cursor).bind fun (entries, next) =>
        (run fold behind next).map fun (more, last) => (entries ++ more, last) := by
  induction begun generalizing cursor with
  | nil =>
    rw [Grouped.nil_append, Grouped.nil_append, run, run]
    cases cursor.skip? fold text with
    | none => rfl
    | some next =>
      show run fold behind next = (run fold behind next).map _
      simp only [List.nil_append, Option.map_id']
  | item instruction rest inductionHypothesis =>
    rw [Grouped.item_append, Grouped.item_append]
    cases instruction with
    | fixed first =>
      rw [run, run]
      cases cursor.skip? fold first with
      | none => rfl
      | some next => exact inductionHypothesis next
    | capture block =>
      rw [run, run, stops_append_fixed rest text behind]
      cases capture? fold block (stops (rest ++ .item (.fixed text) .nil)) cursor with
      | none => rfl
      | some taken =>
        obtain ⟨value, next⟩ := taken
        dsimp only
        rw [inductionHypothesis next]
        simp only [Option.map_bind, Option.bind_map, Function.comp_def, Option.map_map,
          List.cons_append]
    | stop =>
      rw [run, run]
      by_cases ended : cursor.atEnd = true
      · rw [if_pos ended, if_pos ended]
        exact inductionHypothesis cursor
      · rw [if_neg ended, if_neg ended]
        rfl
  | group inner rest _ inductionHypothesis =>
    rw [Grouped.group_append, Grouped.group_append, run, run]
    cases run fold inner cursor with
    | none => exact inductionHypothesis cursor
    | some within =>
      obtain ⟨entries, next⟩ := within
      dsimp only
      rw [inductionHypothesis next]
      simp only [Option.map_bind, Option.bind_map, Function.comp_def, Option.map_map,
        List.append_assoc]

end TypedRoutes.Matching
