import TypedRoutes.Text.Identifier

/-!
Contract: characters that no identifier begins with or holds.

What a capture begins with tells which of its forms it has, so no identifier may begin as another
form does. Classes of characters are lists of ranges; that two of them have nothing in common is
seen on their bounds.

Owns: ranges without a common code point, and the characters kept out of identifiers.
-/

set_option autoImplicit false

namespace TypedRoutes.Text

/-! ## Classes without a common character -/

instance decidableAscending : (ranges : Ranges) → Decidable ranges.Ascending
  | [] => isTrue trivial
  | [(low, high)] => inferInstanceAs (Decidable (low ≤ high))
  | (low, high) :: (low₂, high₂) :: rest =>
    have := decidableAscending ((low₂, high₂) :: rest)
    inferInstanceAs (Decidable (low ≤ high ∧ high < low₂ ∧ _))

theorem Ranges.Ascending.tail {range : Nat × Nat} {rest : Ranges}
    (ascending : Ranges.Ascending (range :: rest)) :
    rest.Ascending := by
  cases rest with
  | nil => trivial
  | cons second others => exact ascending.2.2

theorem Ranges.Ascending.bounds {range : Nat × Nat} {rest : Ranges}
    (ascending : Ranges.Ascending (range :: rest)) :
    range.1 ≤ range.2 := by
  cases rest with
  | nil => exact ascending
  | cons second others => exact ascending.1

theorem Ranges.Ascending.dropWhile {ranges : Ranges} (ascending : ranges.Ascending)
    (skipped : Nat × Nat → Bool) :
    Ranges.Ascending (ranges.dropWhile skipped) := by
  induction ranges with
  | nil => trivial
  | cons range rest inductionHypothesis =>
    rw [List.dropWhile_cons]
    split
    · exact inductionHypothesis ascending.tail
    · exact ascending

/-- Whether ascending ranges have no code point in common. What ends before a range of the second
list begins is out of the way of all later ones too, so both lists are gone through once. -/
def Ranges.areDisjoint (first : Ranges) : Ranges → Bool
  | [] => true
  | (low, high) :: rest =>
    let ahead := first.dropWhile fun range => range.2 < low
    ahead.head?.all (fun range => high < range.1) && Ranges.areDisjoint ahead rest

theorem Ranges.mem_dropWhile {ranges : Ranges} {range : Nat × Nat} {low : Nat}
    (member : range ∈ ranges) (reaches : low ≤ range.2) :
    range ∈ ranges.dropWhile fun earlier => earlier.2 < low := by
  induction ranges with
  | nil => cases member
  | cons head tail inductionHypothesis =>
    rw [List.dropWhile_cons]
    split
    · rename_i skipped
      rcases List.mem_cons.1 member with rfl | later
      · simp only [decide_eq_true_eq] at skipped
        omega
      · exact inductionHypothesis later
    · exact member

theorem Ranges.not_mem_of_areDisjoint {first second : Ranges} {left right : Nat × Nat} {code : Nat}
    (firstAscending : first.Ascending) (secondAscending : second.Ascending)
    (disjoint : first.areDisjoint second = true) (inFirst : left ∈ first)
    (inLeft : left.1 ≤ code ∧ code ≤ left.2) (inRight : right.1 ≤ code ∧ code ≤ right.2) :
    right ∉ second := by
  induction second generalizing first with
  | nil => simp
  | cons range rest inductionHypothesis =>
    obtain ⟨low, high⟩ := range
    intro inSecond
    simp only [Ranges.areDisjoint, Bool.and_eq_true] at disjoint
    have ordered := secondAscending.bounds
    have aheadAscending := firstAscending.dropWhile fun range => range.2 < low
    have reaches : low ≤ left.2 := by
      rcases List.mem_cons.1 inSecond with rfl | later
      · exact Nat.le_trans inRight.1 inLeft.2
      · have above := Ranges.lower_of_mem secondAscending right later
        simp only at ordered
        omega
    have stillAhead := Ranges.mem_dropWhile inFirst reaches
    rcases List.mem_cons.1 inSecond with rfl | later
    · generalize first.dropWhile _ = ahead at *
      cases ahead with
      | nil => cases stillAhead
      | cons next others =>
        have apart : high < next.1 := by simpa using disjoint.1
        rcases List.mem_cons.1 stillAhead with rfl | behind
        · simp only at inRight
          omega
        · have above := Ranges.lower_of_mem aheadAscending left behind
          have nextOrdered := aheadAscending.bounds
          simp only at inRight
          omega
    · exact inductionHypothesis aheadAscending secondAscending.tail disjoint.2 stillAhead later

/-! ## Digits -/

def decimalRanges : Ranges :=
  decimalZeros.map fun first => (first, first + 9)

theorem exists_range_of_isDigit {c : Char} (digit : isDigit c = true) :
    ∃ ranges ∈ [decimalRanges, otherDigitRanges],
      ∃ range ∈ ranges, range.1 ≤ c.toNat ∧ c.toNat ≤ range.2 := by
  simp only [isDigit, Bool.or_eq_true] at digit
  rcases digit with decimal | other
  · unfold decimalValue? at decimal
    rw [Option.isSome_map] at decimal
    obtain ⟨first, found⟩ := Option.isSome_iff_exists.1 decimal
    have within := List.find?_some found
    simp only [Bool.and_eq_true, decide_eq_true_eq] at within
    exact ⟨decimalRanges, by simp, _, List.mem_map_of_mem (List.mem_of_find?_eq_some found), within⟩
  · have ascending : otherDigitRanges.Ascending := by decide +kernel
    exact ⟨otherDigitRanges, by simp, (Ranges.contains_iff ascending _).1 other⟩

/-- A class without a common character with either class of digits has no digit. -/
theorem isDigit_eq_false_of_contains {ranges : Ranges} {c : Char} (ascending : ranges.Ascending)
    (disjoint : ∀ digits ∈ [decimalRanges, otherDigitRanges],
      digits.Ascending ∧ ranges.areDisjoint digits = true)
    (contained : ranges.contains c.toNat = true) :
    isDigit c = false := by
  rw [Bool.eq_false_iff]
  intro digit
  obtain ⟨digits, isClass, right, inDigits, inRight⟩ := exists_range_of_isDigit digit
  obtain ⟨left, inRanges, inLeft⟩ := (Ranges.contains_iff ascending _).1 contained
  obtain ⟨digitsAscending, apart⟩ := disjoint digits isClass
  exact Ranges.not_mem_of_areDisjoint ascending digitsAscending apart inRanges inLeft inRight
    inDigits

/-- No identifier begins with a digit of any script. -/
theorem isDigit_eq_false_of_startsIdentifier {c : Char} (starts : startsIdentifier c = true) :
    isDigit c = false := by
  simp only [startsIdentifier, Bool.or_eq_true, Bool.and_eq_true] at starts
  rcases starts with ⟨letter, _⟩ | extra
  · exact isDigit_eq_false_of_contains (by decide +kernel) (by decide +kernel) letter
  · exact isDigit_eq_false_of_contains (by decide +kernel) (by decide +kernel) extra

/-! ## Characters of the pattern language -/

/-- The characters that patterns are structured by are in no identifier. -/
theorem not_continuesIdentifier_of_mem {c : Char}
    (member : c ∈ ['{', '}', '(', ')', '|', '/', '?', '&', '#', '=', '!', ':', '*']) :
    continuesIdentifier c = false := by
  simp only [List.mem_cons, List.not_mem_nil, or_false] at member
  rcases member with rfl | rfl | rfl | rfl | rfl | rfl | rfl | rfl | rfl | rfl | rfl | rfl | rfl <;>
    decide +kernel

theorem continuesIdentifier_of_startsIdentifier {c : Char} (starts : startsIdentifier c = true) :
    continuesIdentifier c = true := by
  simp [continuesIdentifier, starts]

theorem continuesIdentifier_of_isIdentifier {name : List Char}
    (identifier : isIdentifier name = true) :
    ∀ c ∈ name, continuesIdentifier c = true := by
  cases name with
  | nil => simp
  | cons first more =>
    simp only [isIdentifier, Bool.and_eq_true, List.all_eq_true] at identifier
    exact List.forall_mem_cons.2
      ⟨continuesIdentifier_of_startsIdentifier identifier.1, identifier.2⟩

end TypedRoutes.Text
