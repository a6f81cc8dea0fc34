import TypedRoutes.Proofs.Pattern.Derivation
import TypedRoutes.Proofs.Pattern.Zone

/-!
Contract: what is side by side in a pattern that has been read, with its groups opened in place.

A state remembers one element, which may be a group, and groups may be nested and follow each other.
As no group is empty, the token at the end of that element is the one right before whatever comes
next, so the rule of neighbours that each step obeys holds all along the flat view.

Owns: patterns without empty groups, and the rule of neighbours over a whole level.
-/

set_option autoImplicit false

namespace TypedRoutes.Pattern

/-- No group is empty, at any depth. -/
def HasFullGroups : Pattern → Prop
  | .nil => True
  | .item _ rest => HasFullGroups rest
  | .group inner rest => inner ≠ .nil ∧ HasFullGroups inner ∧ HasFullGroups rest

theorem flatten_ne_nil {pattern : Pattern} (full : HasFullGroups pattern)
    (nonempty : pattern ≠ .nil) :
    pattern.flatten ≠ [] := by
  induction pattern with
  | nil => exact absurd rfl nonempty
  | item token rest _ => exact List.cons_ne_nil _ _
  | group inner rest innerHypothesis _ =>
    exact List.append_ne_nil_of_left_ne_nil (innerHypothesis full.2.1 full.1) _

/-- The token at the very end is the last one of the flat view. -/
theorem last?_eq_getLast? {pattern : Pattern} (full : HasFullGroups pattern) :
    pattern.last? = pattern.flatten.getLast? := by
  induction pattern with
  | nil => rfl
  | item token rest inductionHypothesis =>
    by_cases ends : rest = .nil
    · subst ends
      rfl
    · have later := @flatten_ne_nil rest full ends
      rw [Grouped.last?, inductionHypothesis full]
      · exact (List.getLast?_append_of_ne_nil [token] later).symm
      · exact ends
  | group inner rest innerHypothesis inductionHypothesis =>
    obtain ⟨nonempty, innerFull, restFull⟩ := full
    by_cases ends : rest = .nil
    · subst ends
      rw [Grouped.last?, innerHypothesis innerFull]
      simp [Grouped.flatten]
    · have later := flatten_ne_nil restFull ends
      rw [Grouped.last?, inductionHypothesis restFull]
      · rw [Grouped.flatten, List.getLast?_append_of_ne_nil _ later]
      · exact ends

namespace State

@[simp] theorem last?_move_group (state : State) (inner : Pattern) :
    (state.move (.group inner)).last? = inner.last? := rfl

end State

namespace Reads

variable {inGroup : Bool} {state final : State} {input rest : Text} {elements : Pattern}

theorem hasFullGroups (reads : Reads inGroup state input elements final rest) :
    HasFullGroups elements := by
  induction reads with
  | done => trivial
  | token _ _ _ _ _ inductionHypothesis => exact inductionHypothesis
  | group _ _ nonempty _ _ withinHypothesis inductionHypothesis =>
    exact ⟨nonempty, withinHypothesis, inductionHypothesis⟩

/-- Each token is one that may follow the token before it, wherever groups begin and end. -/
theorem isChain (reads : Reads inGroup state input elements final rest)
    (regular : state.IsRegular) :
    (state.last?.toList ++ elements.flatten).IsChain
      fun before after => before.mayFollow after = true := by
  induction reads with
  | @done _ state _ =>
    cases state.last? <;> simp [Grouped.flatten]
  | token plain scanned unmarked stepped remaining inductionHypothesis =>
    obtain ⟨_, admits, rfl⟩ := (State.step_eq_ok_iff regular).1 stepped
    have later := inductionHypothesis (State.move_isRegular _ _)
    refine List.IsChain.append (by cases State.last? _ <;> simp) later ?_
    rintro before isLast _ ⟨⟩
    refine admits.2 before ?_
    cases ending : State.last? _ <;> simp_all
  | @group _ state _ _ _ _ _ _ _ inner others
      opening within nonempty stepped remaining withinHypothesis inductionHypothesis =>
    obtain ⟨_, _, rfl⟩ := (State.step_eq_ok_iff regular).1 stepped
    have inside := withinHypothesis (State.enterGroup_isRegular regular)
    have later := inductionHypothesis (State.move_isRegular _ _)
    have full := within.hasFullGroups
    have some := flatten_ne_nil full nonempty
    rw [State.last?_enterGroup] at inside
    rw [State.last?_move_group, last?_eq_getLast? full,
      List.getLast?_eq_getLast_of_ne_nil some] at later
    rw [Grouped.flatten, ← List.append_assoc]
    rw [← List.dropLast_append_getLast some, ← List.append_assoc] at inside ⊢
    exact inside.append_overlap later (List.cons_ne_nil _ _)

end Reads

end TypedRoutes.Pattern
