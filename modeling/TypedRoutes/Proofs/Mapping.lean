import Mathlib.Data.List.Nodup
import TypedRoutes.Mapping

/-!
Contract: what is found in mappings whose values go by their names.

Owns: the names of entries, and look-up where each name has one value, by distinct names or because
all its values are the same.
-/

set_option autoImplicit false

namespace TypedRoutes.Mapping

variable {α : Type}

theorem eq_or_mem_of_mem_store {mapping : Mapping α} {name : Text} {value : α} {entry : Text × α}
    (member : entry ∈ store mapping name value) :
    entry = (name, value) ∨ entry ∈ mapping := by
  induction mapping with
  | nil => exact .inl (List.mem_singleton.1 member)
  | cons first rest inductionHypothesis =>
    unfold store at member
    split at member
    · exact (List.mem_cons.1 member).imp_right (List.mem_cons_of_mem _)
    · rcases List.mem_cons.1 member with rfl | later
      · exact .inr List.mem_cons_self
      · exact (inductionHypothesis later).imp_right (List.mem_cons_of_mem _)

theorem mem_of_get?_eq_some {mapping : Mapping α} {name : Text} {value : α}
    (found : get? mapping name = some value) :
    (name, value) ∈ mapping := by
  induction mapping with
  | nil => cases found
  | cons first rest inductionHypothesis =>
    unfold get? at found
    split at found
    · rename_i same
      cases found
      exact same ▸ List.mem_cons_self
    · exact List.mem_cons_of_mem _ (inductionHypothesis found)

theorem get?_eq_some_of_mem {mapping : Mapping α} {name : Text} {value : α}
    (distinct : (mapping.map (·.1)).Nodup) (member : (name, value) ∈ mapping) :
    get? mapping name = some value := by
  induction mapping with
  | nil => cases member
  | cons entry rest inductionHypothesis =>
    obtain ⟨other, old⟩ := entry
    rw [List.map_cons, List.nodup_cons] at distinct
    rcases List.mem_cons.1 member with same | later
    · cases same
      simp [get?]
    · have different : other ≠ name := by
        rintro rfl
        exact distinct.1 (List.mem_map.2 ⟨_, later, rfl⟩)
      rw [get?, if_neg different]
      exact inductionHypothesis distinct.2 later

/-- Where the value depends on the name alone, it does not matter which entry is found. -/
theorem get?_map_of_mem {β : Type} (nameOf : β → Text) (valueOf : Text → α) {list : List β}
    {name : Text} (member : name ∈ list.map nameOf) :
    get? (list.map fun item => (nameOf item, valueOf (nameOf item))) name =
      some (valueOf name) := by
  induction list with
  | nil => cases member
  | cons item rest inductionHypothesis =>
    by_cases same : nameOf item = name
    · simp [get?, same]
    · rw [List.map_cons, List.mem_cons] at member
      rw [List.map_cons, get?, if_neg same]
      exact inductionHypothesis (member.resolve_left (Ne.symm same))

theorem mem_names_ofEntries {entries : List (Text × α)} {name : Text} :
    name ∈ (ofEntries entries).map (·.1) ↔ name ∈ entries.map (·.1) := by
  have stored (earlier : Mapping α) :
      name ∈ (entries.foldl (fun mapping entry => store mapping entry.1 entry.2) earlier).map
          (·.1) ↔
        name ∈ earlier.map (·.1) ∨ name ∈ entries.map (·.1) := by
    induction entries generalizing earlier with
    | nil => simp
    | cons entry rest inductionHypothesis =>
      rw [List.foldl_cons, inductionHypothesis, names_store, List.map_cons, List.mem_cons]
      split
      · rename_i known
        constructor
        · exact Or.imp_right .inr
        · rintro (old | rfl | later)
          · exact .inl old
          · exact .inl known
          · exact .inr later
      · rw [List.mem_append, List.mem_singleton, or_assoc]
  exact (stored []).trans (by simp)

/-- Entries of which all under one name have the same value. -/
theorem get?_ofEntries {entries : List (Text × α)} {name : Text} (value : α)
    (only : ∀ entry ∈ entries, entry.1 = name → entry.2 = value) :
    get? (ofEntries entries) name =
      if name ∈ entries.map (·.1) then some value else none := by
  have stored (earlier : Mapping α) :
      get? (entries.foldl (fun mapping entry => store mapping entry.1 entry.2) earlier) name =
        if name ∈ entries.map (·.1) then some value else get? earlier name := by
    induction entries generalizing earlier with
    | nil => simp
    | cons entry rest inductionHypothesis =>
      obtain ⟨first, later⟩ := List.forall_mem_cons.1 only
      rw [List.foldl_cons, inductionHypothesis later]
      by_cases same : entry.1 = name
      · subst same
        simp [first rfl]
      · rw [get?_store_of_ne _ _ (Ne.symm same)]
        simp only [List.map_cons, List.mem_cons, Ne.symm same, false_or]
  exact stored []

end TypedRoutes.Mapping
