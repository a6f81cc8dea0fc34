import TypedRoutes.Proofs.Number.Numeral
import TypedRoutes.Proofs.Pattern.Approach
import TypedRoutes.Proofs.Pattern.Unfinished

/-!
Contract: the one way in which a text is neither read nor diagnosed.

The count of a capture is made of digits of any script, and is read as a decimal number. Not all
digits have a decimal value, and a number can have too many of them. Where the reader comes to such
a count, and no name goes on from it, it fails without a diagnosis.

Owns: counts that are no numbers, and that only they keep a text from being read or diagnosed.
-/

set_option autoImplicit false

namespace TypedRoutes.Pattern

open TypedRoutes.Text TypedRoutes.Number

/-- Whether the inside of a capture begins with digits that end there and are no number. -/
structure IsUncountable (inside : Text) : Prop where
  begun : inside.takeWhile isDigit ≠ []
  ended : runsOn (inside.dropWhile isDigit) = false
  unreadable :
    (∃ c ∈ inside.takeWhile isDigit, decimalValue? c = none) ∨
      digitLimit < (inside.takeWhile isDigit).length

theorem IsUncountable.exists_digit {inside : Text} (uncountable : IsUncountable inside) :
    ∃ first more, inside = first :: more ∧ isDigit first = true := by
  have begun := uncountable.begun
  cases inside with
  | nil => exact absurd rfl begun
  | cons first more =>
    refine ⟨first, more, rfl, ?_⟩
    by_contra noDigit
    exact begun (List.takeWhile_cons_of_neg noDigit)

theorem IsUncountable.isCounted {inside : Text} (uncountable : IsUncountable inside) :
    IsCounted inside := by
  obtain ⟨first, more, rfl, digit⟩ := uncountable.exists_digit
  exact ⟨first, rfl, .inr digit⟩

/-! ## Readers with diagnoses -/

/-- Whether a reader has a fault for what it refuses. -/
def IsDiagnosed {α : Type} (answer : Except Refusal α) : Prop :=
  ∀ refusal, answer = .error refusal → ∃ fault, refusal = .fault fault

theorem isDiagnosed_ok {α : Type} {result : α} :
    IsDiagnosed (.ok result) := by
  intro refusal same
  cases same

theorem IsDiagnosed.bind {α β : Type} {first : Except Refusal α} {rest : α → Except Refusal β}
    (here : IsDiagnosed first) (later : ∀ found, IsDiagnosed (rest found)) :
    IsDiagnosed (first >>= rest) := by
  intro refusal refused
  rcases bind_eq_error_iff.1 refused with refused | ⟨found, _, refused⟩
  · exact here refusal refused
  · exact later found refusal refused

/-- Behind a reader that can fail without a fault, those that cannot do not matter. -/
theorem number_bind_iff {α β : Type} {first : Except Refusal α} {rest : α → Except Refusal β}
    (later : ∀ found, IsDiagnosed (rest found)) :
    (∃ error, first >>= rest = .error (.number error)) ↔
      ∃ error, first = .error (.number error) := by
  constructor
  · rintro ⟨error, refused⟩
    rcases bind_eq_error_iff.1 refused with refused | ⟨found, _, refused⟩
    · exact ⟨error, refused⟩
    · obtain ⟨_, same⟩ := later found _ refused
      cases same
  · rintro ⟨error, refused⟩
    exact ⟨error, bind_eq_error_iff.2 (.inl refused)⟩

theorem isDiagnosed_scanName (input : Text) : IsDiagnosed (scanName input) := by
  intro refusal refused
  obtain ⟨fault, _, same, _⟩ := exists_part_of_scanName refused
  exact ⟨fault, same⟩

theorem isDiagnosed_scanColonName (input : Text) : IsDiagnosed (scanColonName input) := by
  intro refusal refused
  obtain ⟨fault, _, same, _⟩ := exists_part_of_scanColonName refused
  exact ⟨fault, same⟩

theorem isDiagnosed_scanOptionalAllowed (input : Text) :
    IsDiagnosed (scanOptionalAllowed input) := by
  intro refusal refused
  obtain ⟨fault, _, same, _⟩ := exists_part_of_scanOptionalAllowed refused
  exact ⟨fault, same⟩

theorem isDiagnosed_closeCapture (input : Text) : IsDiagnosed (closeCapture input) := by
  intro refusal refused
  obtain ⟨fault, same, _⟩ := eq_of_closeCapture refused
  exact ⟨fault, same⟩

/-- The inside of a capture without a count has a fault if it is refused. -/
theorem isDiagnosed_scanInside {first : Char} {more : Text} (uncounted : ¬ isDigit first = true) :
    IsDiagnosed (scanInside (first :: more)) := by
  rw [scanInside]
  by_cases star : first = '*'
  · rw [if_pos star]
    exact (isDiagnosed_scanColonName more).bind fun _ => isDiagnosed_ok
  · rw [if_neg star, if_neg uncounted]
    by_cases inName : isNameChar first = true
    · rw [if_pos inName]
      exact (isDiagnosed_scanName _).bind fun found =>
        (isDiagnosed_scanOptionalAllowed found.2).bind fun _ => isDiagnosed_ok
    · rw [if_neg inName]
      exact (isDiagnosed_scanOptionalAllowed _).bind fun _ => isDiagnosed_ok

/-! ## Captures -/

theorem scanSegments_number_iff {first : Char} {more : Text} (digit : isDigit first = true) :
    (∃ error, scanSegments (first :: more) = .error (.number error)) ↔
      IsUncountable (first :: more) := by
  have begun : (first :: more).takeWhile isDigit ≠ [] := by
    rw [List.takeWhile_cons_of_pos digit]
    simp
  have digits : ∀ c ∈ (first :: more).takeWhile isDigit, isDigit c = true :=
    List.all_eq_true.1 List.all_takeWhile
  have unreadable := readInteger_ten_error_iff begun digits
  rw [scanSegments_cons]
  by_cases runs : runsOn ((first :: more).dropWhile isDigit) = true
  · rw [if_pos runs]
    constructor
    · rintro ⟨error, same⟩
      cases same
    · intro uncountable
      rw [uncountable.ended] at runs
      cases runs
  · rw [if_neg runs]
    have ended : runsOn ((first :: more).dropWhile isDigit) = false := by simpa using runs
    constructor
    · rintro ⟨error, refused⟩
      split at refused
      · rename_i found accepted
        exact ⟨begun, ended, unreadable.1 ⟨_, accepted⟩⟩
      · cases refused
      · cases refused
    · intro uncountable
      obtain ⟨error, refused⟩ := unreadable.2 uncountable.unreadable
      rw [refused]
      exact ⟨error, rfl⟩

/-- Of what is inside of a capture only its count can fail without a fault. -/
theorem scanInside_number_iff {inside : Text} :
    (∃ error, scanInside inside = .error (.number error)) ↔ IsUncountable inside := by
  cases inside with
  | nil =>
    constructor
    · rintro ⟨error, same⟩
      cases same
    · intro uncountable
      exact absurd rfl uncountable.begun
  | cons first more =>
    by_cases digit : isDigit first = true
    · have notStar : first ≠ '*' := by
        rintro rfl
        revert digit
        decide
      rw [scanInside, if_neg notStar, if_pos digit, ← scanSegments_number_iff digit]
      exact number_bind_iff fun found =>
        (isDiagnosed_scanColonName found.2).bind fun _ => isDiagnosed_ok
    · constructor
      · rintro ⟨error, refused⟩
        obtain ⟨_, same⟩ := isDiagnosed_scanInside digit _ refused
        cases same
      · intro uncountable
        obtain ⟨_, _, same, isDigitFirst⟩ := uncountable.exists_digit
        cases same
        exact absurd isDigitFirst digit

theorem scanCaptureBody_number_iff {body : Text} :
    (∃ error, scanCaptureBody body = .error (.number error)) ↔ IsUncountable body := by
  rw [← scanInside_number_iff, scanCaptureBody_eq]
  exact number_bind_iff fun found =>
    (isDiagnosed_closeCapture found.2).bind fun _ => isDiagnosed_ok

/-! ## Pairs and tokens -/

/-- A text that opens a capture as a token of its own, or as the value of a pair. -/
inductive OpensCapture (state : State) : Text → Prop where
  | token (elsewhere : (state.inQuery && state.awaitsPair) = false) : OpensCapture state ['{']
  | value {key : Text} (awaits : (state.inQuery && state.awaitsPair) = true) (isKey : IsKey key) :
      OpensCapture state (key ++ ['=', '{'])

theorem scanPair_number_iff {input : Text} :
    (∃ error, scanPair input = .error (.number error)) ↔
      ∃ key inside, input = key ++ '=' :: '{' :: inside ∧ IsKey key ∧ IsUncountable inside := by
  constructor
  · rintro ⟨error, refused⟩
    unfold scanPair at refused
    dsimp only at refused
    split at refused
    · rename_i value afterKey
      split at refused
      · cases refused
      · rename_i keyed
        obtain ⟨key, isKey, whole⟩ := exists_key_of_scanLiteral keyed
        rw [afterKey] at whole
        split at refused
        · rename_i capture
          obtain ⟨inside, rfl⟩ := exists_of_startsWithCapture capture
          rcases bind_eq_error_iff.1 refused with within | ⟨⟨block, _⟩, _, refused⟩
          · exact ⟨key, inside, whole, isKey, scanCaptureBody_number_iff.1 ⟨error, within⟩⟩
          · dsimp only at refused
            split at refused <;> cases refused
        · split at refused <;> cases refused
    · cases refused
  · rintro ⟨key, inside, rfl, isKey, uncountable⟩
    obtain ⟨error, refused⟩ := scanCaptureBody_number_iff.2 uncountable
    have keyed : scanLiteral (key ++ '=' :: '{' :: inside) =
        ((scanLiteral key).1, '=' :: '{' :: inside) :=
      isKey.scanLiteral_append rfl
    have captured := startsWithCapture_of_isCounted uncountable.isCounted []
    rw [List.append_nil] at captured
    refine ⟨error, ?_⟩
    rw [scanPair_of_scanLiteral keyed isKey.1, if_pos captured]
    exact bind_eq_error_iff.2 (.inl refused)

/-- A token fails without a fault only where it opens a capture with a count that is no number. -/
theorem scanToken_number_iff {state : State} {c : Char} {rest : Text} :
    (∃ error, scanToken state (c :: rest) = .error (.number error)) ↔
      ∃ opening inside, c :: rest = opening ++ inside ∧ OpensCapture state opening ∧
        IsUncountable inside := by
  rcases scanToken_cons state c with
    ⟨_, _, _, _, law, bare⟩ | ⟨awaits, law⟩ | ⟨elsewhere, law⟩
  · constructor
    · rintro ⟨error, refused⟩
      rw [law] at refused
      cases refused
    · rintro ⟨opening, inside, whole, opens, _⟩
      -- A mark begins neither a capture nor the key of a pair.
      cases opens with
      | token =>
        obtain ⟨rfl, _⟩ := List.cons.inj whole
        cases bare ['{']
      | @value key _ isKey =>
        have keyed : scanLiteral (key ++ '=' :: '{' :: inside) =
            ((scanLiteral key).1, '=' :: '{' :: inside) :=
          isKey.scanLiteral_append rfl
        have begins := bare rest
        rw [whole, List.append_assoc] at begins
        exact absurd ((congrArg Prod.fst keyed).symm.trans begins) isKey.1
  · rw [law, scanPair_number_iff]
    constructor
    · rintro ⟨key, inside, whole, isKey, uncountable⟩
      exact ⟨key ++ ['=', '{'], inside, by simpa using whole, .value awaits isKey, uncountable⟩
    · rintro ⟨_, inside, whole, opens, uncountable⟩
      cases opens with
      | token elsewhere =>
        rw [awaits] at elsewhere
        cases elsewhere
      | @value key _ isKey =>
        exact ⟨key, inside, by simpa using whole, isKey, uncountable⟩
  · rw [law]
    constructor
    · rintro ⟨error, refused⟩
      split at refused
      · rename_i capture
        obtain ⟨inside, same⟩ := exists_of_startsWithCapture capture
        obtain ⟨rfl, rfl⟩ := List.cons.inj same
        rcases bind_eq_error_iff.1 refused with within | ⟨_, _, returned⟩
        · exact ⟨['{'], rest, rfl, .token elsewhere, scanCaptureBody_number_iff.1 ⟨error, within⟩⟩
        · cases returned
      · split at refused <;> cases refused
    · rintro ⟨_, inside, whole, opens, uncountable⟩
      cases opens with
      | value awaits =>
        rw [elsewhere] at awaits
        cases awaits
      | token =>
        obtain ⟨rfl, rfl⟩ := List.cons.inj whole
        obtain ⟨error, refused⟩ := scanCaptureBody_number_iff.2 uncountable
        have captured := startsWithCapture_of_isCounted uncountable.isCounted []
        rw [List.append_nil] at captured
        refine ⟨error, ?_⟩
        rw [if_pos captured]
        exact bind_eq_error_iff.2 (.inl refused)

/-! ## Whole texts -/

/-- Whether the reader comes to a capture with a count that is no number. -/
def ReachesUncountable (text : Text) : Prop :=
  ∃ seen opening inside position, text = seen ++ (opening ++ inside) ∧ Reaches seen position ∧
    OpensCapture position.level.state opening ∧ IsUncountable inside

/-- Where the reader comes to such a capture, it stops there without a fault. -/
theorem Reaches.exists_stopsBehind {seen opening inside : Text} {position : Position}
    (reaches : Reaches seen position) (opens : OpensCapture position.level.state opening)
    (uncountable : IsUncountable inside) :
    ∃ error, StopsBehind [] (seen ++ (opening ++ inside)) (.number error) := by
  have begins : ∃ c rest, opening ++ inside = c :: rest ∧ isGroupMark c = false ∧
      position.Leaves (c :: rest) := by
    cases opens with
    | token =>
      have captured := startsWithCapture_of_isCounted uncountable.isCounted []
      rw [List.append_nil] at captured
      exact ⟨'{', inside, rfl, rfl, fun _ => scanLiteral_of_startsWithCapture captured⟩
    | value awaits isKey =>
      obtain ⟨c, more, rfl⟩ := isKey.exists_cons
      exact ⟨c, _, rfl, isGroupMark_of_scanLiteral isKey.1, reaches.isSound.leaves awaits _⟩
  obtain ⟨c, rest, whole, plain, leaves⟩ := begins
  obtain ⟨error, refused⟩ :=
    scanToken_number_iff.2 ⟨opening, inside, whole.symm, opens, uncountable⟩
  rw [whole]
  exact ⟨error, seen, c :: rest, position, rfl, reaches, leaves, .lexeme plain refused⟩

/-- Whether a text is read as a pattern, or diagnosed if it is none. -/
def IsAnswered (text : Text) : Prop :=
  (∃ pattern, Pattern.read text = .ok pattern) ∨
    ∃ diagnosis, Pattern.read text = .error (.malformed diagnosis)

end TypedRoutes.Pattern

namespace TypedRoutes

open TypedRoutes.Text TypedRoutes.Pattern TypedRoutes.Number

/-- Every text is read or diagnosed, unless the reader comes to a count that is no number. -/
theorem Pattern.isAnswered_iff (text : Text) :
    IsAnswered text ↔ ¬ ReachesUncountable text := by
  constructor
  · rintro answered ⟨seen, opening, inside, position, rfl, reaches, opens, uncountable⟩
    obtain ⟨error, stops⟩ := reaches.exists_stopsBehind opens uncountable
    have refused : Pattern.read (seen ++ (opening ++ inside)) = .error (.number error) :=
      Pattern.read_eq_error_iff.2 ⟨_, stops, rfl⟩
    rw [IsAnswered, refused] at answered
    rcases answered with ⟨pattern, same⟩ | ⟨diagnosis, same⟩ <;> cases same
  · intro free
    cases answer : Pattern.read text with
    | ok pattern => exact .inl ⟨pattern, answer⟩
    | error error =>
      cases error with
      | malformed diagnosis => exact .inr ⟨diagnosis, answer⟩
      | number error =>
        exfalso
        obtain ⟨refusal, ⟨seen, rest, position, whole, reaches, _, halts⟩, located⟩ :=
          Pattern.read_eq_error_iff.1 answer
        cases refusal with
        | fault fault => cases located
        | number error =>
          cases halts with
          | lexeme plain refused =>
            obtain ⟨opening, inside, split, opens, uncountable⟩ :=
              scanToken_number_iff.1 ⟨error, refused⟩
            rw [split] at whole
            exact free ⟨seen, opening, inside, position, whole.symm, reaches, opens, uncountable⟩
          | token plain scanned refused =>
            obtain ⟨_, same, _⟩ := Level.exists_fault_of_take refused
            cases same

/-- A superscript two counts as a digit, but is no number. -/
theorem Pattern.not_isAnswered_superscript : ¬ IsAnswered "/{²}".toList := by
  have refused : Pattern.read "/{²}".toList = .error (.number (.malformed 10 ['²'])) := by
    cbv
  intro answered
  rw [IsAnswered, refused] at answered
  rcases answered with ⟨pattern, same⟩ | ⟨diagnosis, same⟩ <;> cases same

end TypedRoutes
