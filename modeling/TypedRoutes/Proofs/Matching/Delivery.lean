import TypedRoutes.Proofs.Mapping
import TypedRoutes.Proofs.Matching.Trace

/-!
Contract: what a match delivers under the names of its captures.

Captures that share a name have to have been filled with the same text, or all been left unfilled.
Then each name delivers what its captures were filled with.

Owns: the items inside groups, consistent fillings, and the text under a name.
-/

set_option autoImplicit false

namespace TypedRoutes.Matching

open TypedRoutes.Pattern

def groupItems {α : Type} : Grouped α → List α
  | .nil => []
  | .item _ rest => groupItems rest
  | .group inner rest => inner.flatten ++ groupItems rest

theorem mem_flatten_iff {α : Type} {sequence : Grouped α} {item : α} :
    item ∈ sequence.flatten ↔ item ∈ sequence.topItems ∨ item ∈ groupItems sequence := by
  induction sequence with
  | nil => simp [Grouped.flatten, Grouped.topItems, groupItems]
  | item head rest inductionHypothesis =>
    simp [Grouped.flatten, Grouped.topItems, groupItems, inductionHypothesis, or_assoc]
  | group inner rest _ inductionHypothesis =>
    simp only [Grouped.flatten, Grouped.topItems, groupItems, List.mem_append, inductionHypothesis]
    exact or_left_comm

/-- Only captures inside groups are left unfilled. -/
theorem Trace.mem_groupItems_of_mem {α : Type} {piece : α → Piece} {sequence : Grouped α}
    {filled : List (Capture × Option Text)} {text left : Text} {block : Capture}
    (trace : Trace piece sequence filled text left) (member : (block, none) ∈ filled) :
    block ∈ (groupItems sequence).filterMap fun item => (piece item).capture? := by
  induction trace with
  | nil => cases member
  | fixed _ _ inductionHypothesis => exact inductionHypothesis member
  | capture _ _ _ inductionHypothesis =>
    rcases List.mem_cons.1 member with same | later
    · cases same
    · exact inductionHypothesis later
  | stop _ _ _ inductionHypothesis => exact inductionHypothesis member
  | taken within _ _ inductionHypothesis =>
    rw [groupItems, List.filterMap_append, List.mem_append, ← within.captures_eq]
    rcases List.mem_append.1 member with inside | later
    · exact .inl (List.mem_map.2 ⟨_, inside, rfl⟩)
    · exact .inr (inductionHypothesis later)
  | skipped _ inductionHypothesis =>
    rw [groupItems, List.filterMap_append, List.mem_append]
    rcases List.mem_append.1 member with inside | later
    · obtain ⟨other, found, same⟩ := List.mem_map.1 inside
      cases same
      exact .inl found
    · exact .inr (inductionHypothesis later)

/-- All captures of one name have been filled in the same way. -/
def IsConsistent (filled : List (Capture × Option Text)) : Prop :=
  ∀ first ∈ filled, ∀ second ∈ filled,
    first.1.name = second.1.name → first.1.name.isSome = true → first.2 = second.2

theorem isConsistent_of_nodup {filled : List (Capture × Option Text)}
    (distinct : ((filled.map (·.1)).filterMap (·.name)).Nodup) :
    IsConsistent filled := by
  rw [List.filterMap_map] at distinct
  have apart := List.pairwise_filterMap.1 distinct
  have alike {first second : Capture × Option Text}
      (different :
        ∀ name, first.1.name = some name → ∀ other, second.1.name = some other → name ≠ other)
      (same : first.1.name = second.1.name)
      (named : first.1.name.isSome = true) :
      first.2 = second.2 := by
    obtain ⟨name, found⟩ := Option.isSome_iff_exists.1 named
    exact absurd rfl (different name found name (same ▸ found))
  refine List.Pairwise.forall_of_forall_of_flip (fun _ _ _ _ => rfl) (apart.imp ?_) (apart.imp ?_)
  · exact fun different => alike different
  · exact fun different same named => (alike different same.symm (same ▸ named)).symm

/-- What a match delivers under the name of a capture is what the capture was filled with. -/
theorem isConsistent_map (blocks : List Capture) (textOf : Option Text → Option Text) :
    IsConsistent (blocks.map fun block => (block, textOf block.name)) := by
  intro first inFirst second inSecond alike _
  obtain ⟨block, _, rfl⟩ := List.mem_map.1 inFirst
  obtain ⟨other, _, rfl⟩ := List.mem_map.1 inSecond
  exact congrArg textOf alike

theorem get?_of_isConsistent {filled : List (Capture × Option Text)} {block : Capture}
    {text : Option Text} {name : Text} (consistent : IsConsistent filled)
    (member : (block, text) ∈ filled) (named : block.name = some name) :
    Captures.get? ⟨entriesOf filled⟩ name = text := by
  have entry (value : Text) :
      (name, value) ∈ (entriesOf filled).filterMap
          (fun entry => entry.name.map fun name => (name, entry.text)) ↔
        ∃ other, (other, some value) ∈ filled ∧ other.name = some name := by
    simp only [entriesOf, List.mem_filterMap, Option.map_eq_some_iff, Prod.exists]
    constructor
    · rintro ⟨_, ⟨other, _, found, _, rfl, rfl⟩, _, known, same⟩
      cases same
      exact ⟨other, found, known⟩
    · rintro ⟨other, found, known⟩
      exact ⟨_, ⟨other, _, found, value, rfl, rfl⟩, name, known, rfl⟩
  have alike (other : Capture) (value : Text)
      (found : (other, some value) ∈ filled)
      (known : other.name = some name) :
      some value = text :=
    consistent _ found _ member (known.trans named.symm) (by simp [known])
  unfold Captures.get? Captures.named
  cases text with
  | none =>
    rw [Mapping.get?_ofEntries []]
    · rw [if_neg]
      intro known
      obtain ⟨⟨_, value⟩, found, rfl⟩ := List.mem_map.1 known
      obtain ⟨other, inside, same⟩ := (entry value).1 found
      cases alike other value inside same
    · rintro ⟨_, value⟩ found rfl
      obtain ⟨other, inside, same⟩ := (entry value).1 found
      cases alike other value inside same
  | some text =>
    rw [Mapping.get?_ofEntries text]
    · rw [if_pos]
      exact List.mem_map.2 ⟨(name, text), (entry text).2 ⟨block, member, named⟩, rfl⟩
    · rintro ⟨_, value⟩ found rfl
      obtain ⟨other, inside, same⟩ := (entry value).1 found
      exact Option.some.inj (alike other value inside same)

end TypedRoutes.Matching
