import TypedRoutes.Proofs.Matching.Parting
import TypedRoutes.Proofs.Matching.Span

/-!
Contract: what stands behind fixed text matches a route of its own.

A program that is empty or ends in fixed text leaves a route at some place, and no capture of it
looks beyond that text. What stands behind it begins there as at the start of a route: what has been
used up is of no importance to captures, groups and the end, and only moves all places. This is so
as long as the run is inside the route, which a comparison with regard to case never leaves.

Owns: the outcome of a run by the place it reaches, and the outcome behind fixed text. Does not own:
comparisons without regard to case.
-/

set_option autoImplicit false

namespace TypedRoutes.Matching

open TypedRoutes.Text TypedRoutes.Pattern TypedRoutes.Program

/-- A program that is empty or ends in fixed text of its own level. -/
def EndsFixed (program : Program) : Prop :=
  program = .nil ∨ ∃ (begun : Program) (text : Text), program = begun ++ .item (.fixed text) .nil

/-- What follows a program that ends in fixed text goes on from where that program has ended. -/
theorem EndsFixed.run_append {program : Program} (ends : EndsFixed program) (fold : Bool)
    (behind : Program) (cursor : Cursor) :
    run fold (program ++ behind) cursor =
      (run fold program cursor).bind fun (entries, next) =>
        (run fold behind next).map fun (more, last) => (entries ++ more, last) := by
  rcases ends with rfl | ⟨begun, text, rfl⟩
  · show run fold behind cursor = (run fold behind cursor).map _
    simp only [List.nil_append, Option.map_id']
  · rw [Grouped.append_assoc]
    exact run_append_fixed fold begun text behind cursor

/-- A group that stands alone is passed over if it does not match. -/
theorem run_group_alone (fold : Bool) (inner : Program) (cursor : Cursor) :
    run fold (.group inner .nil) cursor =
      some ((run fold inner cursor).getD ([], cursor)) := by
  rw [run]
  cases run fold inner cursor with
  | none => rfl
  | some within => simp [run]

/-- What a program takes from the start of a route: the entries of its captures, and the place that
it reaches. -/
def outcome? (fold : Bool) (program : Program) (route : Text) : Option (List Entry × Nat) :=
  (run fold program { rest := route }).map fun (entries, last) => (entries, last.placeIn route)

/-- A run that compares with regard to case stands inside the route where it ends. -/
theorem placeIn_of_run {program : Program} {route : Text} {entries : List Entry} {last : Cursor}
    (ran : run false program { rest := route } = some (entries, last)) :
    last = { rest := route.drop (last.placeIn route) } ∧ last.placeIn route ≤ route.length := by
  obtain ⟨_, used, _, split, past, _⟩ := exists_trace_of_run ran
  obtain ⟨rest, steps⟩ := last
  obtain rfl : steps = 0 := past
  change route = used ++ rest at split
  have place : Cursor.placeIn route { rest } = used.length := by
    rw [Cursor.placeIn, split, List.length_append]
    exact Nat.add_sub_cancel _ _
  rw [place, split, List.drop_left, List.length_append]
  exact ⟨rfl, Nat.le_add_right _ _⟩

/-- Places in what is left of a route lie further on in the route itself. -/
theorem placeIn_of_run_drop {program : Program} {route : Text} {place : Nat} {entries : List Entry}
    {last : Cursor} (inside : place ≤ route.length)
    (ran : run false program { rest := route.drop place } = some (entries, last)) :
    last.placeIn route = place + last.placeIn (route.drop place) := by
  obtain ⟨_, used, _, split, _, _⟩ := exists_trace_of_run ran
  have length := congrArg List.length split
  rw [List.length_append] at length
  dsimp only at length
  have left := List.length_drop (i := place) (l := route)
  unfold Cursor.placeIn
  omega

/-- What a program takes behind fixed text it takes as from the start of a route: the route that is
left at the place that has been reached. A group in its place takes the same, or nothing. -/
theorem outcome?_append {program : Program} (ends : EndsFixed program) (behind : Program)
    (route : Text) :
    outcome? false (program ++ behind) route =
        ((outcome? false program route).bind fun (entries, place) =>
          (outcome? false behind (route.drop place)).map fun (more, further) =>
            (entries ++ more, place + further)) ∧
      outcome? false (program ++ .group behind .nil) route =
        (outcome? false program route).map fun (entries, place) =>
          match outcome? false behind (route.drop place) with
          | none => (entries, place)
          | some (more, further) => (entries ++ more, place + further) := by
  unfold outcome?
  rw [ends.run_append, ends.run_append]
  cases ran : run false program { rest := route } with
  | none => exact ⟨rfl, rfl⟩
  | some result =>
    obtain ⟨entries, next⟩ := result
    obtain ⟨begins, inside⟩ := placeIn_of_run ran
    generalize reached : next.placeIn route = place at begins inside
    subst begins
    simp only [Option.bind_some, Option.map_some, run_group_alone, reached]
    cases further : run false behind { rest := route.drop place } with
    | none => simp [reached]
    | some result =>
      obtain ⟨more, last⟩ := result
      have moved := placeIn_of_run_drop inside further
      simp [moved]

/-- A segment and a slash are taken first. What is left is taken as a route of its own, all of it by
one capture or nothing by a group that asks for more. -/
theorem outcome?_append_segment :
    let segment (name : String) : Instruction := .capture ⟨.one, some name.toList, none⟩
    let route := "a/bc".toList
    let program : Program := .item (segment "u") (.item (.fixed "/".toList) .nil)
    let behind : Program := .item (segment "v") (.item .stop .nil)
    let further : Program := .item (segment "v") (.item (.fixed "-".toList) .nil)
    EndsFixed program ∧
      outcome? false program route = some ([⟨some "u".toList, "a".toList⟩], 2) ∧
        outcome? false behind (route.drop 2) = some ([⟨some "v".toList, "bc".toList⟩], 2) ∧
          outcome? false (program ++ behind) route =
              some ([⟨some "u".toList, "a".toList⟩, ⟨some "v".toList, "bc".toList⟩], 4) ∧
            outcome? false (program ++ .group further .nil) route =
              some ([⟨some "u".toList, "a".toList⟩], 2) := by
  intro segment route program behind further
  have ends : EndsFixed program := .inr ⟨.item (segment "u") .nil, "/".toList, rfl⟩
  have first : outcome? false program route = some ([⟨some "u".toList, "a".toList⟩], 2) := by
    decide
  have second :
      outcome? false behind (route.drop 2) = some ([⟨some "v".toList, "bc".toList⟩], 2) := by
    decide
  have failing : outcome? false further (route.drop 2) = none := by decide
  refine ⟨ends, first, second, ?_, ?_⟩
  · rw [(outcome?_append ends behind route).1, first, Option.bind_some]
    dsimp only
    rw [second]
    rfl
  · rw [(outcome?_append ends further route).2, first, Option.map_some]
    dsimp only
    rw [failing]

end TypedRoutes.Matching
