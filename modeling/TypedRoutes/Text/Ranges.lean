/-!
Contract: membership of a character in a set that is given as ascending ranges of code points.

Owns: the range list and its test, which stops at the first range above the character.
Does not own: any particular set; each property of characters has its own module, with its table as
of version 15.0 of Unicode.
-/

set_option autoImplicit false

namespace TypedRoutes.Text

/-- Inclusive ranges of code points, ascending and disjoint. -/
abbrev Ranges := List (Nat × Nat)

def Ranges.contains : Ranges → Nat → Bool
  | [], _ => false
  | (low, high) :: rest, code =>
    if code < low then false
    else if code ≤ high then true
    else Ranges.contains rest code

def Ranges.Ascending : Ranges → Prop
  | [] => True
  | [(low, high)] => low ≤ high
  | (low, high) :: (low₂, high₂) :: rest =>
    low ≤ high ∧ high < low₂ ∧ Ranges.Ascending ((low₂, high₂) :: rest)

theorem Ranges.lower_of_mem {low high : Nat} {rest : Ranges}
    (ascending : Ranges.Ascending ((low, high) :: rest)) :
    ∀ range ∈ rest, high < range.1 := by
  induction rest generalizing low high with
  | nil => simp
  | cons head tail inductionHypothesis =>
    intro range member
    obtain ⟨headLow, headHigh⟩ := head
    have bounds : low ≤ high ∧ high < headLow ∧ Ranges.Ascending ((headLow, headHigh) :: tail) :=
      ascending
    rcases List.mem_cons.1 member with rfl | later
    · exact bounds.2.1
    · have above := inductionHypothesis bounds.2.2 range later
      have ordered : headLow ≤ headHigh := by
        cases tail with
        | nil => exact bounds.2.2
        | cons second others => exact bounds.2.2.1
      omega

/-- On an ascending list the early stop loses nothing: the test is plain membership. -/
theorem Ranges.contains_iff {ranges : Ranges} (ascending : Ranges.Ascending ranges) (code : Nat) :
    Ranges.contains ranges code = true ↔ ∃ range ∈ ranges, range.1 ≤ code ∧ code ≤ range.2 := by
  induction ranges with
  | nil => simp [Ranges.contains]
  | cons head tail inductionHypothesis =>
    obtain ⟨low, high⟩ := head
    have tailAscending : Ranges.Ascending tail := by
      cases tail with
      | nil => trivial
      | cons second others => exact ascending.2.2
    have above := Ranges.lower_of_mem ascending
    have ordered : low ≤ high := by
      cases tail with
      | nil => exact ascending
      | cons second others => exact ascending.1
    unfold Ranges.contains
    split
    · rename_i below
      simp only [Bool.false_eq_true, List.mem_cons, exists_eq_or_imp, false_iff, not_or,
        not_exists, not_and]
      refine ⟨by omega, ?_⟩
      intro range member
      have := above range member
      omega
    · split
      · simp only [List.mem_cons, exists_eq_or_imp, true_iff]
        exact Or.inl ⟨by omega, by omega⟩
      · rw [inductionHypothesis tailAscending]
        simp only [List.mem_cons, exists_eq_or_imp]
        constructor
        · exact Or.inr
        · rintro (inside | found)
          · omega
          · exact found

end TypedRoutes.Text
