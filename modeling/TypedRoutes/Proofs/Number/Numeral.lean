import Mathlib.Algebra.Group.Nat.Defs
import Mathlib.Data.List.Induction
import Mathlib.Data.Nat.Log
import TypedRoutes.Number.Integer
import TypedRoutes.Proofs.Text.Identifier

/-!
Contract: what the reader of integers makes of digits, and of the texts that integers have.

A number of a base that is not a power of two has a bounded number of digits, which bounds the
number too. Within that bound an integer comes back from its decimal text, and a number comes back
from its hexadecimal digits. Digits of other scripts are read as those of base ten, but not all of
them have a value.

Owns: the bounds of what is read, the round trips of decimal and hexadecimal text, and which digits
are no decimal number.
-/

set_option autoImplicit false

namespace TypedRoutes.Number

open TypedRoutes.Text

/-! ## The value of digits -/

theorem ofDigits_append (base : Nat) (digits : List Nat) (last : Nat) :
    ofDigits base (digits ++ [last]) = ofDigits base digits * base + last := by
  simp [ofDigits]

theorem ofDigits_lt {base : Nat} {digits : List Nat} (valid : ∀ digit ∈ digits, digit < base) :
    ofDigits base digits < base ^ digits.length := by
  induction digits using List.reverseRecOn with
  | nil => simp [ofDigits]
  | append_singleton front last inductionHypothesis =>
    have below := inductionHypothesis fun digit inFront =>
      valid digit (List.mem_append_left _ inFront)
    have lastBelow := valid last (by simp)
    rw [ofDigits_append, List.length_append, List.length_singleton, Nat.pow_succ]
    calc ofDigits base front * base + last
        < ofDigits base front * base + base := by omega
      _ = (ofDigits base front + 1) * base := (Nat.succ_mul _ _).symm
      _ ≤ base ^ front.length * base := Nat.mul_le_mul_right base below

theorem digitValue?_lt {base digit : Nat} {c : Char} (valued : digitValue? base c = some digit) :
    digit < base := by
  have filtered := (Option.filter_eq_some_iff.1 valued).2
  simpa using filtered

theorem moreDigits_valid {base : Nat} {text after : Text} {digits : List Nat}
    (scanned : moreDigits base text = some (digits, after)) :
    ∀ digit ∈ digits, digit < base := by
  fun_induction moreDigits base text generalizing digits after with
  | case1 => simp_all
  | case2 => cases scanned
  | case3 => cases scanned
  | case4 c rest digit valued inductionHypothesis =>
    obtain ⟨⟨found, left⟩, further, same⟩ := Option.map_eq_some_iff.1 scanned
    cases same
    exact List.forall_mem_cons.2 ⟨digitValue?_lt valued, inductionHypothesis further⟩
  | case5 => simp_all
  | case6 c rest _ _ digit valued inductionHypothesis =>
    obtain ⟨⟨found, left⟩, further, same⟩ := Option.map_eq_some_iff.1 scanned
    cases same
    exact List.forall_mem_cons.2 ⟨digitValue?_lt valued, inductionHypothesis further⟩

theorem digitRun_valid {base : Nat} {text after : Text} {digits : List Nat}
    (scanned : digitRun base text = some (digits, after)) :
    ∀ digit ∈ digits, digit < base := by
  unfold digitRun at scanned
  split at scanned
  · cases scanned
  · split at scanned
    · cases scanned
    · rename_i digit valued
      obtain ⟨⟨found, left⟩, further, same⟩ := Option.map_eq_some_iff.1 scanned
      cases same
      exact List.forall_mem_cons.2 ⟨digitValue?_lt valued, moreDigits_valid further⟩

/-! ## What is read is bounded -/

theorem exists_of_readInteger_ten {text : Text} {number : Int}
    (accepted : readInteger 10 text = .ok number) :
    ∃ magnitude : Nat,
      magnitude < 10 ^ digitLimit ∧
        number =
          if (splitSign (text.dropWhile isNumberBlank)).1 then -(magnitude : Int)
          else magnitude := by
  unfold readInteger at accepted
  have notZero : ¬(10 : Nat) = 0 := by decide
  simp only [notZero, if_false] at accepted
  split at accepted
  · cases accepted
  · rename_i digits after scanned
    split at accepted
    · cases accepted
    · rename_i few
      have short : digits.length ≤ digitLimit := by
        simpa [isPowerOfTwo] using few
      split at accepted
      · cases accepted
      · split at accepted
        · cases accepted
        · cases accepted
          refine ⟨ofDigits 10 digits, ?_, rfl⟩
          exact (ofDigits_lt (digitRun_valid scanned)).trans_le
            (Nat.pow_le_pow_right (by decide) short)

/-- Without a minus sign nothing below zero is read. -/
theorem readInteger_ten_bounds {text : Text} {number : Int} (unsigned : '-' ∉ text)
    (accepted : readInteger 10 text = .ok number) :
    0 ≤ number ∧ number < (10 ^ digitLimit : Nat) := by
  obtain ⟨magnitude, below, rfl⟩ := exists_of_readInteger_ten accepted
  have positive : (splitSign (text.dropWhile isNumberBlank)).1 = false := by
    unfold splitSign
    split
    · rfl
    · rename_i rest signed
      have dash : '-' ∈ text.dropWhile isNumberBlank := by simp [signed]
      exact absurd ((List.dropWhile_suffix _).subset dash) unsigned
    · rfl
  rw [positive]
  exact ⟨Int.natCast_nonneg magnitude, Int.ofNat_lt.2 below⟩

/-! ## Digits are read back -/

/-- What the reader needs to know of a digit that is written. -/
theorem hexDigit_spec :
    ∀ value : Fin 16,
      ((decimalValue? (hexDigit value)).orElse fun _ => letterValue? (hexDigit value)) =
          some value.val ∧
        isNumberBlank (hexDigit value) = false ∧
          hexDigit value ∉ ['+', '-', '_', 'x', 'X'] := by
  decide

variable {base : Nat} {digits : List Nat}

theorem digitValue?_hexDigit {digit : Nat} (valid : digit < base) (small : base ≤ 16) :
    digitValue? base (hexDigit digit) = some digit := by
  have valued := (hexDigit_spec ⟨digit, by omega⟩).1
  unfold digitValue?
  rw [valued]
  simp [valid]

theorem moreDigits_map (valid : ∀ digit ∈ digits, digit < base) (small : base ≤ 16) :
    moreDigits base (digits.map hexDigit) = some (digits, []) := by
  induction digits with
  | nil => rfl
  | cons digit rest inductionHypothesis =>
    obtain ⟨digitValid, restValid⟩ := List.forall_mem_cons.1 valid
    have bare := (hexDigit_spec ⟨digit, by omega⟩).2.2
    have noUnderscore : hexDigit digit ≠ '_' := by
      rintro same
      simp [same] at bare
    rw [List.map_cons, moreDigits]
    · simp [digitValue?_hexDigit digitValid small, inductionHypothesis restValid]
    · exact fun same => absurd same noUnderscore
    · exact fun _ _ same => absurd same noUnderscore

theorem digitRun_map (nonempty : digits ≠ []) (valid : ∀ digit ∈ digits, digit < base)
    (small : base ≤ 16) :
    digitRun base (digits.map hexDigit) = some (digits, []) := by
  cases digits with
  | nil => exact absurd rfl nonempty
  | cons digit rest =>
    obtain ⟨digitValid, restValid⟩ := List.forall_mem_cons.1 valid
    simp [digitRun, digitValue?_hexDigit digitValid small, moreDigits_map restValid small]

/-- A text that has no letter of base sixteen loses no mark in it, and none in base ten. -/
theorem dropMark_eq_self {text : Text} (isBase : base = 10 ∨ base = 16)
    (unmarked : ∀ c ∈ text, c ≠ 'x' ∧ c ≠ 'X') :
    dropMark base text = text := by
  unfold dropMark
  split
  · rfl
  · rename_i marked rest split
    rw [if_pos]
    rintro rfl
    unfold splitMark at split
    split at split
    · split at split
      · split at split
        · exact (unmarked 'x' (by simp)).1 rfl
        · exact (unmarked 'X' (by simp)).2 rfl
        all_goals
          cases split
          try omega
      · cases split
    · cases split

/-- Digits are read as their number, whatever sign they have. -/
theorem readInteger_eq_of_digits {text : Text} {negative : Bool} (isBase : base = 10 ∨ base = 16)
    (nonempty : digits ≠ []) (valid : ∀ digit ∈ digits, digit < base)
    (short : base = 10 → digits.length ≤ digitLimit)
    (signed : splitSign (text.dropWhile isNumberBlank) = (negative, digits.map hexDigit)) :
    readInteger base text =
      .ok (if negative then -(ofDigits base digits : Int) else ofDigits base digits) := by
  have small : base ≤ 16 := by omega
  have unmarked : dropMark base (digits.map hexDigit) = digits.map hexDigit := by
    refine dropMark_eq_self isBase fun c member => ?_
    obtain ⟨digit, inDigits, rfl⟩ := List.mem_map.1 member
    have digitValid := valid digit inDigits
    have bare := (hexDigit_spec ⟨digit, by omega⟩).2.2
    simp only [List.mem_cons, not_or] at bare
    exact ⟨bare.2.2.2.1, bare.2.2.2.2.1⟩
  have notZero : base ≠ 0 := by omega
  have fits : (!isPowerOfTwo base && decide (digits.length > digitLimit)) = false := by
    rcases isBase with rfl | rfl
    · simpa [isPowerOfTwo] using short rfl
    · rfl
  unfold readInteger
  simp only [signed, notZero, if_false, unmarked, digitRun_map nonempty valid small, fits,
    Bool.false_eq_true, List.all_nil, Bool.not_true, decide_false, Bool.false_and]

theorem splitSign_digits (nonempty : digits ≠ []) (valid : ∀ digit ∈ digits, digit < 16) :
    splitSign ((digits.map hexDigit).dropWhile isNumberBlank) = (false, digits.map hexDigit) := by
  cases digits with
  | nil => exact absurd rfl nonempty
  | cons digit rest =>
    have spec := hexDigit_spec ⟨digit, valid digit (by simp)⟩
    have bare := spec.2.2
    simp only [List.mem_cons, not_or] at bare
    rw [List.map_cons, List.dropWhile_cons_of_neg (by simp [spec.2.1])]
    unfold splitSign
    split
    · rename_i same
      exact absurd (List.cons.inj same).1 bare.1
    · rename_i same
      exact absurd (List.cons.inj same).1 bare.2.1
    · rfl

/-! ## Digits of all scripts -/

theorem digitValue?_ten (c : Char) : digitValue? 10 c = decimalValue? c := by
  unfold digitValue?
  cases decimal : decimalValue? c with
  | some value =>
    obtain ⟨first, found, rfl⟩ := Option.map_eq_some_iff.1 decimal
    have within := List.find?_some found
    simp only [Bool.and_eq_true, decide_eq_true_eq] at within
    have below : c.toNat - first < 10 := by omega
    simp [below]
  | none =>
    rw [Option.orElse_none]
    apply Option.filter_eq_none_iff.2
    intro value letter
    unfold letterValue? at letter
    split at letter
    · cases letter
      simp
    · split at letter
      · cases letter
        simp
      · cases letter

/-- What stands before, in and behind a number is no digit of any script. -/
theorem isDigit_spec {c : Char} (digit : isDigit c = true) :
    isNumberBlank c = false ∧ c ∉ ['+', '-', '_', 'x', 'X'] := by
  constructor
  · rw [isNumberBlank, Bool.and_eq_false_iff]
    left
    rw [Bool.eq_false_iff]
    intro blank
    have foreign := isDigit_eq_false_of_contains blankRanges_ascending (by decide +kernel) blank
    rw [digit] at foreign
    cases foreign
  · intro member
    simp only [List.mem_cons, List.not_mem_nil, or_false] at member
    rcases member with rfl | rfl | rfl | rfl | rfl <;> revert digit <;> decide

/-- Digits of all scripts are read up to the first one without a decimal value. -/
theorem exists_moreDigits {text : Text} (allDigits : ∀ c ∈ text, isDigit c = true) :
    ∃ values after,
      moreDigits 10 text = some (values, after) ∧ values.length + after.length = text.length ∧
        (∀ c ∈ after, c ∈ text) ∧ (after = [] ↔ ∀ c ∈ text, decimalValue? c ≠ none) := by
  induction text with
  | nil => exact ⟨[], [], rfl, rfl, by simp, by simp⟩
  | cons c rest inductionHypothesis =>
    obtain ⟨digit, others⟩ := List.forall_mem_cons.1 allDigits
    have noUnderscore : c ≠ '_' := by
      rintro rfl
      exact (isDigit_spec digit).2 (by simp)
    obtain ⟨values, after, scanned, length, subset, decimal⟩ := inductionHypothesis others
    rw [moreDigits]
    · rw [digitValue?_ten]
      cases valued : decimalValue? c with
      | none => exact ⟨[], c :: rest, rfl, by simp, by simp, by simp [valued]⟩
      | some value =>
        refine ⟨value :: values, after, by simp [scanned], ?_, ?_, ?_⟩
        · simp only [List.length_cons]
          omega
        · exact fun d member => List.mem_cons_of_mem c (subset d member)
        · rw [decimal]
          simp [valued]
    · exact fun same => absurd same noUnderscore
    · exact fun _ _ same => absurd same noUnderscore

theorem all_isNumberBlank_iff {text : Text} (allDigits : ∀ c ∈ text, isDigit c = true) :
    text.all isNumberBlank = true ↔ text = [] := by
  constructor
  · intro allBlank
    cases text with
    | nil => rfl
    | cons c more =>
      have unread := (isDigit_spec (allDigits c List.mem_cons_self)).1
      rw [List.all_cons, unread] at allBlank
      cases allBlank
  · rintro rfl
    rfl

theorem splitSign_of_isDigit {first : Char} (digit : isDigit first = true) (rest : Text) :
    splitSign (first :: rest) = (false, first :: rest) := by
  have bare := (isDigit_spec digit).2
  unfold splitSign
  split
  · rename_i same
    exact absurd (List.cons.inj same).1 fun plus => bare (by simp [plus])
  · rename_i same
    exact absurd (List.cons.inj same).1 fun minus => bare (by simp [minus])
  · rfl

/-- Digits of all scripts are no number just if one of them has no decimal value or they are too
many. -/
theorem readInteger_ten_error_iff {text : Text} (nonempty : text ≠ [])
    (allDigits : ∀ c ∈ text, isDigit c = true) :
    (∃ error, readInteger 10 text = .error error) ↔
      (∃ c ∈ text, decimalValue? c = none) ∨ digitLimit < text.length := by
  obtain ⟨first, rest, rfl⟩ := List.exists_cons_of_ne_nil nonempty
  obtain ⟨firstDigit, restDigits⟩ := List.forall_mem_cons.1 allDigits
  have solid : (first :: rest).dropWhile isNumberBlank = first :: rest :=
    List.dropWhile_cons_of_neg (by simp [(isDigit_spec firstDigit).1])
  have signless := splitSign_of_isDigit firstDigit rest
  have unmarked : dropMark 10 (first :: rest) = first :: rest := by
    refine dropMark_eq_self (.inl rfl) fun c member => ?_
    have cBare := (isDigit_spec (allDigits c member)).2
    simp only [List.mem_cons, not_or] at cBare
    exact ⟨cBare.2.2.2.1, cBare.2.2.2.2.1⟩
  have notZero : ¬(10 : Nat) = 0 := by decide
  obtain ⟨values, after, scanned, length, subset, decimal⟩ := exists_moreDigits restDigits
  unfold readInteger
  simp only [solid, signless, notZero, if_false, unmarked, digitRun, digitValue?_ten, scanned]
  cases valued : decimalValue? first with
  | none => simp [valued]
  | some value =>
    simp only [Option.map_some]
    have ten : isPowerOfTwo 10 = false := rfl
    have blank := all_isNumberBlank_iff fun c member => restDigits c (subset c member)
    have decimals : (∃ c ∈ first :: rest, decimalValue? c = none) ↔ after ≠ [] := by
      rw [Ne, decimal]
      simp [valued]
    have count : after = [] → (value :: values).length = (first :: rest).length := by
      rintro rfl
      simpa using length
    rw [decimals]
    by_cases whole : after = []
    · rw [count whole, whole]
      by_cases many : digitLimit < (first :: rest).length
      · rw [if_pos (by simpa [ten] using many)]
        simpa using many
      · rw [if_neg (by simpa [ten] using many)]
        simpa using many
    · have unread : after.all isNumberBlank = false := by
        rw [Bool.eq_false_iff]
        exact mt blank.1 whole
      rw [unread]
      split <;> simp [whole]

/-! ## Decimal text -/

theorem digitChar_eq_hexDigit {value : Nat} (small : value < 10) :
    digitChar value = hexDigit value := by
  simp [digitChar, hexDigit, small]

/-- The decimal text of a number is made of digits that come to it. -/
theorem exists_digits_naturalText (n : Nat) :
    ∃ digits : List Nat,
      naturalText n = digits.map hexDigit ∧ digits ≠ [] ∧ (∀ digit ∈ digits, digit < 10) ∧
        ofDigits 10 digits = n ∧ digits.length = Nat.log 10 n + 1 := by
  induction n using Nat.strongRecOn with
  | ind n inductionHypothesis =>
    unfold naturalText
    by_cases small : n < 10
    · refine ⟨[n], ?_, by simp, by simpa using small, by simp [ofDigits], ?_⟩
      · rw [if_pos small, digitChar_eq_hexDigit small]
        rfl
      · rw [Nat.log_of_lt small]
        rfl
    · obtain ⟨front, written, _, valid, value, count⟩ := inductionHypothesis (n / 10) (by omega)
      have lastBelow : n % 10 < 10 := Nat.mod_lt n (by decide)
      refine ⟨front ++ [n % 10], ?_, by simp, ?_, ?_, ?_⟩
      · rw [if_neg small, written, digitChar_eq_hexDigit lastBelow, List.map_append]
        rfl
      · intro digit member
        rcases List.mem_append.1 member with inFront | isLast
        · exact valid digit inFront
        · rw [List.mem_singleton.1 isLast]
          exact lastBelow
      · rw [ofDigits_append, value]
        omega
      · have logarithm : Nat.log 10 n = Nat.log 10 (n / 10) + 1 :=
          Nat.log_of_one_lt_of_le (by decide) (by omega)
        rw [List.length_append, count, List.length_singleton, logarithm]

/-- Decimal digits of a number below the bound are few enough to be read. -/
theorem length_le_digitLimit {n : Nat} (bounded : n < 10 ^ digitLimit)
    (count : digits.length = Nat.log 10 n + 1) :
    digits.length ≤ digitLimit := by
  have fewer : Nat.log 10 n < digitLimit := by
    rcases Nat.eq_zero_or_pos n with rfl | positive
    · rw [Nat.log_zero_right]
      decide
    · exact Nat.log_lt_of_lt_pow (by omega) bounded
  omega

/-- An integer comes back from its decimal text. -/
theorem readInteger_integerText {number : Int} (bounded : number.natAbs < 10 ^ digitLimit) :
    readInteger 10 (integerText number) = .ok number := by
  cases number with
  | ofNat n =>
    obtain ⟨digits, written, nonempty, valid, value, count⟩ := exists_digits_naturalText n
    have short := length_le_digitLimit bounded count
    have signless := splitSign_digits nonempty fun digit member =>
      (valid digit member).trans (by decide)
    rw [integerText, written,
      readInteger_eq_of_digits (.inl rfl) nonempty valid (fun _ => short) signless, value]
    rfl
  | negSucc n =>
    obtain ⟨digits, written, nonempty, valid, value, count⟩ := exists_digits_naturalText (n + 1)
    have short := length_le_digitLimit bounded count
    have signed :
        splitSign (('-' :: digits.map hexDigit).dropWhile isNumberBlank) =
          (true, digits.map hexDigit) := rfl
    rw [integerText, written,
      readInteger_eq_of_digits (.inl rfl) nonempty valid (fun _ => short) signed, value]
    rfl

/-! ## Hexadecimal text -/

theorem exists_digits_hexDigits (width : Nat) {value : Nat} (fits : value < 16 ^ width) :
    ∃ digits : List Nat,
      hexDigits width value = digits.map hexDigit ∧ digits.length = width ∧
        (∀ digit ∈ digits, digit < 16) ∧ ofDigits 16 digits = value := by
  induction width generalizing value with
  | zero =>
    obtain rfl : value = 0 := by simpa using fits
    exact ⟨[], rfl, rfl, by simp, rfl⟩
  | succ width inductionHypothesis =>
    have shorter : value / 16 < 16 ^ width := by
      rw [Nat.pow_succ] at fits
      exact Nat.div_lt_of_lt_mul (by rwa [Nat.mul_comm])
    obtain ⟨front, written, count, valid, comesTo⟩ := inductionHypothesis shorter
    have lastBelow : value % 16 < 16 := Nat.mod_lt value (by decide)
    refine ⟨front ++ [value % 16], ?_, ?_, ?_, ?_⟩
    · rw [hexDigits, written, List.map_append]
      rfl
    · rw [List.length_append, count]
      rfl
    · intro digit member
      rcases List.mem_append.1 member with inFront | isLast
      · exact valid digit inFront
      · rw [List.mem_singleton.1 isLast]
        exact lastBelow
    · rw [ofDigits_append, comesTo]
      omega

theorem readInteger_hexDigits {width value : Nat} (some : width ≠ 0) (fits : value < 16 ^ width) :
    readInteger 16 (hexDigits width value) = .ok value := by
  obtain ⟨digits, written, count, valid, comesTo⟩ := exists_digits_hexDigits width fits
  have nonempty : digits ≠ [] := by
    rintro rfl
    exact some count.symm
  rw [written, readInteger_eq_of_digits (.inr rfl) nonempty valid (by simp)
    (splitSign_digits nonempty valid), comesTo]
  rfl

end TypedRoutes.Number
