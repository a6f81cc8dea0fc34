import Mathlib.Data.List.TakeWhile
import TypedRoutes.Pattern.Lexeme.Remainder
import TypedRoutes.Proofs.Number.Numeral
import TypedRoutes.Proofs.Pattern.Grammar

/-!
Contract: what the readers of lexemes recognize is sound.

Each reader hands out only what a pattern may hold, whatever text it is given: literals without
reserved characters, identifiers as names, positive numbers with few digits, lists of nonempty
texts. A literal is read to its end, so no other literal can come right after it.

Owns: one law for each reader, up to tokens.
-/

set_option autoImplicit false

namespace TypedRoutes.Pattern

open TypedRoutes.Text TypedRoutes.Number

/-! ## Literals -/

theorem isBarred_of_isReserved_eq_false {c : Char} (free : isReserved c = false) :
    isBarred c = false := by
  simp only [isReserved, isBarred, List.contains_eq_mem, List.mem_cons, List.not_mem_nil,
    decide_eq_false_iff_not] at *
  tauto

/-- A literal is made of characters that stand for themselves. -/
theorem scanLiteral_unbarred (input : Text) :
    ∀ c ∈ (scanLiteral input).1, isBarred c = false := by
  fun_induction scanLiteral input with
  | case1 rest literal after scanned inductionHypothesis =>
    rw [scanned] at inductionHypothesis
    exact List.forall_mem_cons.2 ⟨rfl, inductionHypothesis⟩
  | case2 rest literal after scanned inductionHypothesis =>
    rw [scanned] at inductionHypothesis
    exact List.forall_mem_cons.2 ⟨rfl, inductionHypothesis⟩
  | case3 c rest _ _ reserved => simp
  | case4 c rest _ _ notReserved literal after scanned inductionHypothesis =>
    rw [scanned] at inductionHypothesis
    have free := isBarred_of_isReserved_eq_false (Bool.eq_false_iff.2 notReserved)
    exact List.forall_mem_cons.2 ⟨free, inductionHypothesis⟩
  | case5 => simp

/-- No literal begins where a literal has been read to its end. -/
theorem scanLiteral_exhausted (input : Text) :
    (scanLiteral (scanLiteral input).2).1 = [] := by
  fun_induction scanLiteral input with
  | case1 rest literal after scanned inductionHypothesis =>
    rwa [scanned] at inductionHypothesis
  | case2 rest literal after scanned inductionHypothesis =>
    rwa [scanned] at inductionHypothesis
  | case3 c rest notOpening notClosing reserved =>
    rw [scanLiteral]
    · simp [reserved]
    · exact notOpening
    · exact notClosing
  | case4 c rest _ _ notReserved literal after scanned inductionHypothesis =>
    rwa [scanned] at inductionHypothesis
  | case5 => rfl

/-! ## Names, lists and numbers -/

theorem isIdentifier_of_nameFault?_eq_none {name rest : Text}
    (faultless : nameFault? name rest = none) :
    isIdentifier name = true := by
  unfold nameFault? at faultless
  split at faultless
  · cases faultless
  · rename_i first more
    split at faultless
    · rename_i starts
      split at faultless
      · rename_i ended
        rw [isIdentifier, starts, Bool.true_and, List.all_eq_true]
        exact List.dropWhile_eq_nil_iff.1 ended
      · cases faultless
    · cases faultless

theorem scanName_isIdentifier {input name rest : Text}
    (scanned : scanName input = .ok (name, rest)) :
    isIdentifier name = true := by
  unfold scanName at scanned
  dsimp only at scanned
  split at scanned
  · cases scanned
  · rename_i faultless
    cases scanned
    exact isIdentifier_of_nameFault?_eq_none faultless

theorem scanColonName_isIdentifier {input rest : Text} {name : Option Text}
    (scanned : scanColonName input = .ok (name, rest)) :
    ∀ text ∈ name, isIdentifier text = true := by
  unfold scanColonName at scanned
  split at scanned
  · obtain ⟨⟨text, after⟩, found, returned⟩ := bind_eq_ok_iff.1 scanned
    cases returned
    rintro text ⟨⟩
    exact scanName_isIdentifier found
  · cases scanned
    simp

/-- Only complete texts are listed, if what has been read so far is fit for a list. -/
theorem scanAllowed_isListable {values allowed : List Text} {current input rest : Text}
    (scanned : scanAllowed values current input = .ok (allowed, rest))
    (complete : ∀ text ∈ values, IsListable text) (begun : ∀ c ∈ current, isListMark c = false) :
    allowed ≠ [] ∧ ∀ text ∈ allowed, IsListable text := by
  induction input generalizing values current with
  | nil => cases scanned
  | cons c tail inductionHypothesis =>
    have extended (nonempty : current ≠ []) : ∀ text ∈ values ++ [current], IsListable text := by
      intro text member
      rcases List.mem_append.1 member with old | new
      · exact complete text old
      · rw [List.mem_singleton.1 new]
        exact ⟨nonempty, begun⟩
    unfold scanAllowed at scanned
    split at scanned
    · rename_i closes
      cases scanned
      exact ⟨by simp, extended closes.2⟩
    · split at scanned
      · cases scanned
      · rename_i unbracketed
        split at scanned
        · split at scanned
          · cases scanned
          · rename_i nonempty
            exact inductionHypothesis scanned (extended nonempty) (by simp)
        · rename_i unparted
          refine inductionHypothesis scanned complete fun d member => ?_
          rcases List.mem_append.1 member with old | new
          · exact begun d old
          · rw [List.mem_singleton.1 new]
            simp only [isListMark, List.contains_eq_mem, List.mem_cons, List.not_mem_nil,
              decide_eq_false_iff_not]
            tauto

theorem scanOptionalAllowed_isListable {input rest : Text} {allowed : Option (List Text)}
    (scanned : scanOptionalAllowed input = .ok (allowed, rest)) :
    ∀ texts ∈ allowed, texts ≠ [] ∧ ∀ text ∈ texts, IsListable text := by
  unfold scanOptionalAllowed at scanned
  split at scanned
  · obtain ⟨⟨found, after⟩, listed, returned⟩ := bind_eq_ok_iff.1 scanned
    cases returned
    rintro texts ⟨⟩
    exact scanAllowed_isListable listed (by simp) (by simp)
  · cases scanned
    simp

theorem scanSegments_bounds {body rest : Text} {segments : Int}
    (scanned : scanSegments body = .ok (segments, rest)) :
    1 ≤ segments ∧ segments < (10 ^ digitLimit : Nat) := by
  have unsigned : '-' ∉ body.takeWhile isDigit := by
    intro dash
    have digit := List.mem_takeWhile_imp dash
    revert digit
    decide +kernel
  unfold scanSegments at scanned
  simp only at scanned
  split at scanned
  · cases scanned
  · split at scanned
    · cases scanned
    · cases scanned
    · rename_i number notZero accepted
      cases scanned
      have bounds := readInteger_ten_bounds unsigned accepted
      have positive : segments ≠ 0 := fun zero => notZero (by rw [zero])
      exact ⟨by omega, bounds.2⟩

/-! ## Tokens -/

theorem scanCaptureBody_isSound {body rest : Text} {block : Capture}
    (scanned : scanCaptureBody body = .ok (block, rest)) :
    block.IsSound := by
  unfold scanCaptureBody at scanned
  split at scanned
  · cases scanned
  · rename_i first more
    split at scanned
    · obtain ⟨⟨name, afterName⟩, named, scanned⟩ := bind_eq_ok_iff.1 scanned
      obtain ⟨after, closed, returned⟩ := bind_eq_ok_iff.1 scanned
      cases returned
      exact ⟨scanColonName_isIdentifier named, by rintro _ ⟨⟩, by simp⟩
    · split at scanned
      · obtain ⟨⟨segments, afterNumber⟩, numbered, scanned⟩ := bind_eq_ok_iff.1 scanned
        obtain ⟨⟨name, afterName⟩, named, scanned⟩ := bind_eq_ok_iff.1 scanned
        obtain ⟨after, closed, returned⟩ := bind_eq_ok_iff.1 scanned
        cases returned
        refine ⟨scanColonName_isIdentifier named, ?_, by simp⟩
        rintro _ ⟨⟩
        exact scanSegments_bounds numbered
      · split at scanned
        · obtain ⟨⟨name, afterName⟩, named, scanned⟩ := bind_eq_ok_iff.1 scanned
          obtain ⟨⟨allowed, afterAllowed⟩, listed, scanned⟩ := bind_eq_ok_iff.1 scanned
          obtain ⟨after, closed, returned⟩ := bind_eq_ok_iff.1 scanned
          cases returned
          refine ⟨?_, by rintro _ ⟨⟩, fun texts member => ⟨rfl, ?_⟩⟩
          · rintro _ ⟨⟩
            exact scanName_isIdentifier named
          · exact scanOptionalAllowed_isListable listed texts member
        · obtain ⟨⟨allowed, afterAllowed⟩, listed, scanned⟩ := bind_eq_ok_iff.1 scanned
          obtain ⟨after, closed, returned⟩ := bind_eq_ok_iff.1 scanned
          cases returned
          refine ⟨by simp, by rintro _ ⟨⟩, fun texts member => ⟨rfl, ?_⟩⟩
          exact scanOptionalAllowed_isListable listed texts member

/-- A pair that is taken has a key, the sign behind it, and a capture of one segment or a literal as
its value. -/
theorem exists_value_of_scanPair {input rest : Text} {token : Token}
    (scanned : scanPair input = .ok (token, rest)) :
    ∃ key value, scanLiteral input = (key, '=' :: value) ∧ key ≠ [] ∧
      ((∃ block, token = .pair key (.capture block) ∧ block.extent = .one ∧
          startsWithCapture value = true ∧ scanCaptureBody value.tail = .ok (block, rest)) ∨
        ∃ text, token = .pair key (.literal text) ∧ text ≠ [] ∧
          scanLiteral value = (text, rest)) := by
  unfold scanPair at scanned
  dsimp only at scanned
  split at scanned
  · rename_i value behindKey
    split at scanned
    · cases scanned
    · rename_i keyed
      refine ⟨(scanLiteral input).1, value, by rw [← behindKey], keyed, ?_⟩
      split at scanned
      · rename_i capture
        obtain ⟨⟨block, after⟩, found, scanned⟩ := bind_eq_ok_iff.1 scanned
        dsimp only at scanned
        split at scanned
        · rename_i single
          cases scanned
          exact .inl ⟨block, rfl, single, capture, found⟩
        · cases scanned
      · split at scanned
        · cases scanned
        · rename_i valued
          cases scanned
          exact .inr ⟨_, rfl, valued, rfl⟩
  · cases scanned

theorem scanPair_isSound {input rest : Text} {token : Token}
    (scanned : scanPair input = .ok (token, rest)) :
    token.IsSound := by
  obtain ⟨key, value, read, keyed, taken⟩ := exists_value_of_scanPair scanned
  have unbarred := scanLiteral_unbarred input
  rw [read] at unbarred
  rcases taken with ⟨block, rfl, single, _, found⟩ | ⟨text, rfl, valued, literal⟩
  · exact ⟨⟨keyed, unbarred⟩, scanCaptureBody_isSound found, single⟩
  · have valueUnbarred := scanLiteral_unbarred value
    rw [literal] at valueUnbarred
    exact ⟨⟨keyed, unbarred⟩, valued, valueUnbarred⟩

/-- What a state makes of the start of a text: a pair, a mark, a capture or a literal. -/
theorem scanToken_cases {state : State} {input rest : Text} {token : Token}
    (scanned : scanToken state input = .ok (token, rest)) :
    (scanPair input = .ok (token, rest)) ∨
      (token ∈ [Token.question, .ampersand, .hash, .stop, .slash]) ∨
        (∃ block body, token = .capture block ∧ scanCaptureBody body = .ok (block, rest)) ∨
          (∃ text, token = .literal text ∧ text ≠ [] ∧ scanLiteral input = (text, rest)) := by
  unfold scanToken at scanned
  split at scanned
  · cases scanned
  · split at scanned
    · exact .inl scanned
    · refine .inr ?_
      split at scanned
      · cases scanned
        simp
      · split at scanned
        · cases scanned
          simp
        · split at scanned
          · cases scanned
            simp
          · split at scanned
            · cases scanned
              simp
            · split at scanned
              · cases scanned
                simp
              · refine .inr ?_
                split at scanned
                · obtain ⟨⟨block, after⟩, found, returned⟩ := bind_eq_ok_iff.1 scanned
                  cases returned
                  exact .inl ⟨block, _, rfl, found⟩
                · dsimp only at scanned
                  split at scanned
                  · cases scanned
                  · rename_i nonempty
                    cases scanned
                    exact .inr ⟨_, rfl, nonempty, rfl⟩

theorem scanToken_isSound {state : State} {input rest : Text} {token : Token}
    (scanned : scanToken state input = .ok (token, rest)) :
    token.IsSound := by
  rcases scanToken_cases scanned with
    pair | mark | ⟨block, body, rfl, found⟩ | ⟨text, rfl, nonempty, found⟩
  · exact scanPair_isSound pair
  · simp only [List.mem_cons, List.not_mem_nil, or_false] at mark
    rcases mark with rfl | rfl | rfl | rfl | rfl <;> trivial
  · exact scanCaptureBody_isSound found
  · have unbarred := scanLiteral_unbarred input
    rw [found] at unbarred
    exact ⟨nonempty, unbarred⟩

theorem scanLiteral_of_scanToken {state : State} {input rest text : Text}
    (scanned : scanToken state input = .ok (.literal text, rest)) :
    text ≠ [] ∧ scanLiteral input = (text, rest) := by
  rcases scanToken_cases scanned with
    pair | mark | ⟨block, body, same, found⟩ | ⟨text, same, nonempty, found⟩
  · unfold scanPair at pair
    dsimp only at pair
    split at pair
    · split at pair
      · cases pair
      · split at pair
        · obtain ⟨⟨block, after⟩, found, pair⟩ := bind_eq_ok_iff.1 pair
          dsimp only at pair
          split at pair <;> cases pair
        · split at pair <;> cases pair
    · cases pair
  · simp at mark
  · cases same
  · cases same
    exact ⟨nonempty, found⟩

end TypedRoutes.Pattern
