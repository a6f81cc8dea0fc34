import TypedRoutes.Text.Basic
import TypedRoutes.Text.Lowercase

/-!
Contract: what the lower-case form of a text depends on, and how long it is.

The case of ASCII letters does not show in the lower-case form, neither at the letters themselves
nor at a sigma near them, since all of them are cased. The lower-case form has one character for
each character of the text, but for one that has two: the capital I with a dot above. Apart from it
and from the sigmas, a character of the one stands for a character of the other.

Owns: texts with ASCII letters in lower case, the length of the lower-case form, and texts that are
lowered character by character.
-/

set_option autoImplicit false

namespace TypedRoutes.Text

/-! ## ASCII letters -/

def lowerLetters (text : Text) : Text :=
  text.map Char.toLower

/-- What is the same for each capital ASCII letter and its small form does not depend on the case
of ASCII letters. -/
theorem eq_of_toLower {α : Type} {f : Char → α}
    (letters : ∀ n < 26, f (Char.ofNat (0x41 + n)).toLower = f (Char.ofNat (0x41 + n))) (c : Char) :
    f c.toLower = f c := by
  by_cases upper : c.val ≥ 'A'.val ∧ c.val ≤ 'Z'.val
  · have low : 0x41 ≤ c.toNat := UInt32.le_iff_toNat_le.1 upper.1
    have high : c.toNat ≤ 0x5a := UInt32.le_iff_toNat_le.1 upper.2
    have same := letters (c.toNat - 0x41) (by omega)
    rwa [Nat.add_sub_cancel' low, Char.ofNat_toNat] at same
  · have same : c.toLower = c := dif_neg upper
    rw [same]

theorem lowercaseChar_toLower (c : Char) : lowercaseChar c.toLower = lowercaseChar c :=
  eq_of_toLower (by decide) c

theorem isSigma_toLower (c : Char) : c.toLower.toNat = 0x3a3 ↔ c.toNat = 0x3a3 :=
  decide_eq_decide.1 (eq_of_toLower (f := fun c => decide (c.toNat = 0x3a3)) (by decide) c)

/-- ASCII letters are cased, whatever their own case is. -/
theorem meetsCased_lowerLetters (text : Text) :
    meetsCased (lowerLetters text) = meetsCased text := by
  induction text with
  | nil => rfl
  | cons c rest inductionHypothesis =>
    have ignorable := eq_of_toLower (f := fun c => caseIgnorableRanges.contains c.toNat)
      (by decide) c
    have cased := eq_of_toLower (f := fun c => casedRanges.contains c.toNat) (by decide) c
    unfold lowerLetters at inductionHypothesis ⊢
    rw [List.map_cons, meetsCased, meetsCased, ignorable, cased, inductionHypothesis]

theorem lowercaseIn_lowerLetters (before : Text) (c : Char) (after : Text) :
    lowercaseIn (lowerLetters before) c.toLower (lowerLetters after) =
      lowercaseIn before c after := by
  unfold lowercaseIn
  rw [meetsCased_lowerLetters, meetsCased_lowerLetters, lowercaseChar_toLower]
  simp only [isSigma_toLower]

theorem lowercaseFrom_lowerLetters (before text : Text) :
    lowercaseFrom (lowerLetters before) (lowerLetters text) = lowercaseFrom before text := by
  induction text generalizing before with
  | nil => rfl
  | cons c rest inductionHypothesis =>
    have passed := inductionHypothesis (c :: before)
    have here := lowercaseIn_lowerLetters before c rest
    unfold lowerLetters at passed here ⊢
    rw [List.map_cons, lowercaseFrom, lowercaseFrom, here, ← List.map_cons, passed]

/-- The case of ASCII letters does not show in the lower-case form of a text. -/
theorem lowercase_lowerLetters (text : Text) : lowercase (lowerLetters text) = lowercase text :=
  lowercaseFrom_lowerLetters [] text

/-! ## Lengths -/

theorem length_lowercaseIn (before : Text) (c : Char) (after : Text) :
    (lowercaseIn before c after).length = if c.toNat = 0x130 then 2 else 1 := by
  unfold lowercaseIn lowercaseChar
  by_cases sigma : c.toNat = 0x3a3
  · have plain : ¬ c.toNat = 0x130 := by omega
    rw [if_pos sigma, if_neg plain]
    rfl
  · rw [if_neg sigma]
    by_cases dotted : c.toNat = 0x130
    · rw [if_pos dotted, if_pos dotted]
      rfl
    · rw [if_neg dotted, if_neg dotted]
      cases lowercaseCode? lowercaseRuns c.toNat <;> rfl

theorem length_lowercaseFrom (before text : Text) :
    (lowercaseFrom before text).length = text.length + text.countP (·.toNat = 0x130) := by
  induction text generalizing before with
  | nil => rfl
  | cons c rest inductionHypothesis =>
    rw [lowercaseFrom, List.length_append, length_lowercaseIn, inductionHypothesis,
      List.length_cons, List.countP_cons]
    by_cases dotted : c.toNat = 0x130
    · simp only [dotted, decide_true, if_true]
      omega
    · simp only [dotted, decide_false, if_false, Bool.false_eq_true]
      omega

/-- The lower-case form of a text is longer than the text by one character for each capital I with a
dot above. -/
theorem length_lowercase (text : Text) :
    (lowercase text).length = text.length + text.countP (·.toNat = 0x130) :=
  length_lowercaseFrom [] text

/-- If a text has the lower-case form of a longer one, a capital I with a dot above is in it. -/
theorem exists_dotted_of_lowercase_eq {short long : Text} (shorter : short.length < long.length)
    (same : lowercase short = lowercase long) :
    ∃ c ∈ short, c.toNat = 0x130 := by
  have lengths := congrArg List.length same
  rw [length_lowercase, length_lowercase] at lengths
  have positive : 0 < short.countP (·.toNat = 0x130) := by omega
  obtain ⟨c, member, dotted⟩ := List.countP_pos_iff.1 positive
  exact ⟨c, member, of_decide_eq_true dotted⟩

/-! ## Characters with one lower-case form -/

/-- Whether a character is the same in lower case wherever it stands, and one character there: it is
neither the capital I with a dot above nor any sigma. -/
def isSteady (c : Char) : Bool :=
  match lowercaseChar c with
  | [lower] => lower != 'σ' && lower != 'ς'
  | _ => false

/-- Between whatever neighbours, a character has the lower-case form of a steady one exactly if it
has that form by itself. -/
theorem lowercaseIn_eq_iff {steady : Char} (is : isSteady steady = true) (before : Text) (c : Char)
    (after : Text) :
    lowercaseIn before c after = lowercaseChar steady ↔ lowercaseChar c = lowercaseChar steady := by
  by_cases sigma : c.toNat = 0x3a3
  · have capital : c = 'Σ' := Char.toNat_inj.1 sigma
    have apart (lower : Char) (small : lower = 'σ' ∨ lower = 'ς') :
        [lower] ≠ lowercaseChar steady := by
      intro same
      unfold isSteady at is
      rw [← same] at is
      rcases small with rfl | rfl <;> cases is
    subst capital
    refine iff_of_false ?_ (apart 'σ' (.inl rfl))
    unfold lowercaseIn
    rw [if_pos sigma]
    split
    · exact apart _ (.inr rfl)
    · exact apart _ (.inl rfl)
  · unfold lowercaseIn
    rw [if_neg sigma]

theorem length_lowercaseChar (c : Char) :
    (lowercaseChar c).length = if c.toNat = 0x130 then 2 else 1 := by
  by_cases sigma : c.toNat = 0x3a3
  · have capital : c = 'Σ' := Char.toNat_inj.1 sigma
    rw [capital]
    decide
  · have lowered := length_lowercaseIn [] c []
    unfold lowercaseIn at lowered
    rwa [if_neg sigma] at lowered

theorem ne_dotted_of_isSteady {c : Char} (steady : isSteady c = true) : c.toNat ≠ 0x130 := by
  intro dotted
  have letter : c = 'İ' := Char.toNat_inj.1 dotted
  rw [letter] at steady
  cases steady

theorem lowercaseFrom_eq_iff {steady text : Text} (are : ∀ c ∈ steady, isSteady c = true)
    (single : ∀ c ∈ text, c.toNat ≠ 0x130) (lengths : text.length = steady.length)
    (before behind : Text) :
    lowercaseFrom before text = lowercaseFrom behind steady ↔
      text.map lowercaseChar = steady.map lowercaseChar := by
  induction text generalizing steady before behind with
  | nil =>
    obtain rfl : steady = [] := List.eq_nil_of_length_eq_zero lengths.symm
    exact iff_of_true rfl rfl
  | cons c rest inductionHypothesis =>
    cases steady with
    | nil => cases lengths
    | cons other others =>
      obtain ⟨own, later⟩ := List.forall_mem_cons.1 are
      obtain ⟨plain, restPlain⟩ := List.forall_mem_cons.1 single
      have same := inductionHypothesis later restPlain (Nat.succ.inj lengths) (c :: before)
        (other :: behind)
      have lowered : lowercaseIn behind other others = lowercaseChar other :=
        (lowercaseIn_eq_iff own behind other others).2 rfl
      have sizes : (lowercaseIn before c rest).length = (lowercaseChar other).length := by
        rw [length_lowercaseIn, length_lowercaseChar, if_neg plain,
          if_neg (ne_dotted_of_isSteady own)]
      rw [lowercaseFrom, lowercaseFrom, lowered, List.map_cons, List.map_cons, List.cons_eq_cons,
        ← same, ← lowercaseIn_eq_iff own before c rest]
      constructor
      · exact fun whole => List.append_inj whole sizes
      · rintro ⟨first, second⟩
        rw [first, second]

/-- A text has the lower-case form of a text of as many steady characters exactly if each of its
characters has the lower-case form of the one in its place. -/
theorem lowercase_eq_iff {steady text : Text} (are : ∀ c ∈ steady, isSteady c = true)
    (lengths : text.length = steady.length) :
    lowercase text = lowercase steady ↔ text.map lowercaseChar = steady.map lowercaseChar := by
  have compared (single : ∀ c ∈ text, c.toNat ≠ 0x130) :
      lowercase text = lowercase steady ↔ text.map lowercaseChar = steady.map lowercaseChar :=
    lowercaseFrom_eq_iff are single lengths [] []
  constructor
  · intro same
    refine (compared fun c member dotted => ?_).1 same
    have long := congrArg List.length same
    rw [length_lowercase, length_lowercase] at long
    have none : steady.countP (·.toNat = 0x130) = 0 := by
      rw [List.countP_eq_zero]
      exact fun c member => by simpa using ne_dotted_of_isSteady (are c member)
    have some : 0 < text.countP (·.toNat = 0x130) :=
      List.countP_pos_iff.2 ⟨c, member, decide_eq_true dotted⟩
    omega
  · intro same
    refine (compared fun c member dotted => ?_).2 same
    have lowered : lowercaseChar c ∈ steady.map lowercaseChar := same ▸ List.mem_map_of_mem member
    obtain ⟨other, inside, equal⟩ := List.mem_map.1 lowered
    have long := congrArg List.length equal
    rw [length_lowercaseChar, length_lowercaseChar, if_pos dotted,
      if_neg (ne_dotted_of_isSteady (are other inside))] at long
    cases long

end TypedRoutes.Text
