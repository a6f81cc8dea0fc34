import TypedRoutes.Pattern.Lexeme
import TypedRoutes.Success

/-!
Contract: what the readers of lexemes leave.

Readers leave an end of the text they were given. One that finds something that has to have a mark
of its own, or some characters, leaves less than it was given, so reading token after token comes to
an end.
-/

set_option autoImplicit false

namespace TypedRoutes.Pattern

open TypedRoutes.Text

/-! ## Parts of tokens -/

theorem scanLiteral_suffix (input : Text) : (scanLiteral input).2 <:+ input := by
  fun_induction scanLiteral input with
  | case1 rest literal after scanned inductionHypothesis =>
    rw [scanned] at inductionHypothesis
    exact (inductionHypothesis.trans (List.suffix_cons _ _)).trans (List.suffix_cons _ _)
  | case2 rest literal after scanned inductionHypothesis =>
    rw [scanned] at inductionHypothesis
    exact (inductionHypothesis.trans (List.suffix_cons _ _)).trans (List.suffix_cons _ _)
  | case3 c rest _ _ reserved => exact List.suffix_rfl
  | case4 c rest _ _ notReserved literal after scanned inductionHypothesis =>
    rw [scanned] at inductionHypothesis
    exact inductionHypothesis.trans (List.suffix_cons _ _)
  | case5 => exact List.suffix_rfl

theorem scanLiteral_shorter {input : Text} (nonempty : (scanLiteral input).1 ≠ []) :
    (scanLiteral input).2.length < input.length := by
  fun_induction scanLiteral input with
  | case1 rest literal after scanned _ =>
    have shorter := (scanLiteral_suffix rest).length_le
    rw [scanned] at shorter
    simp only [List.length_cons] at *
    omega
  | case2 rest literal after scanned _ =>
    have shorter := (scanLiteral_suffix rest).length_le
    rw [scanned] at shorter
    simp only [List.length_cons] at *
    omega
  | case3 c rest _ _ reserved => exact absurd rfl nonempty
  | case4 c rest _ _ notReserved literal after scanned _ =>
    have shorter := (scanLiteral_suffix rest).length_le
    rw [scanned] at shorter
    simp only [List.length_cons] at *
    omega
  | case5 => exact absurd rfl nonempty

theorem scanName_suffix {input name rest : Text} (scanned : scanName input = .ok (name, rest)) :
    rest <:+ input := by
  unfold scanName at scanned
  dsimp only at scanned
  split at scanned
  · cases scanned
  · cases scanned
    exact List.dropWhile_suffix _

theorem scanAllowed_suffix {values allowed : List Text} {current input rest : Text}
    (scanned : scanAllowed values current input = .ok (allowed, rest)) :
    rest <:+ input := by
  induction input generalizing values current with
  | nil => cases scanned
  | cons c tail inductionHypothesis =>
    unfold scanAllowed at scanned
    split at scanned
    · cases scanned
      exact List.suffix_cons _ _
    · split at scanned
      · cases scanned
      · split at scanned
        · split at scanned
          · cases scanned
          · exact (inductionHypothesis scanned).trans (List.suffix_cons _ _)
        · exact (inductionHypothesis scanned).trans (List.suffix_cons _ _)

theorem closeCapture_shorter {input rest : Text} (closed : closeCapture input = .ok rest) :
    rest.length < input.length := by
  unfold closeCapture at closed
  split at closed
  · cases closed
    simp
  · cases closed

theorem scanColonName_suffix {input rest : Text} {name : Option Text}
    (scanned : scanColonName input = .ok (name, rest)) :
    rest <:+ input := by
  unfold scanColonName at scanned
  split at scanned
  · obtain ⟨⟨text, after⟩, found, returned⟩ := bind_eq_ok_iff.1 scanned
    cases returned
    exact (scanName_suffix found).trans (List.suffix_cons _ _)
  · cases scanned
    exact List.suffix_rfl

theorem scanOptionalAllowed_suffix {input rest : Text} {allowed : Option (List Text)}
    (scanned : scanOptionalAllowed input = .ok (allowed, rest)) :
    rest <:+ input := by
  unfold scanOptionalAllowed at scanned
  split at scanned
  · obtain ⟨⟨texts, after⟩, found, returned⟩ := bind_eq_ok_iff.1 scanned
    cases returned
    exact (scanAllowed_suffix found).trans (List.suffix_cons _ _)
  · cases scanned
    exact List.suffix_rfl

theorem scanSegments_suffix {body rest : Text} {segments : Int}
    (scanned : scanSegments body = .ok (segments, rest)) :
    rest <:+ body := by
  unfold scanSegments at scanned
  simp only at scanned
  split at scanned
  · cases scanned
  · split at scanned
    · cases scanned
    · cases scanned
    · cases scanned
      exact List.dropWhile_suffix _

/-! ## Tokens -/

theorem scanCaptureBody_shorter {body rest : Text} {block : Capture}
    (scanned : scanCaptureBody body = .ok (block, rest)) :
    rest.length < body.length := by
  unfold scanCaptureBody at scanned
  split at scanned
  · cases scanned
  · rename_i first more
    split at scanned
    · obtain ⟨⟨name, afterName⟩, named, scanned⟩ := bind_eq_ok_iff.1 scanned
      obtain ⟨after, closed, returned⟩ := bind_eq_ok_iff.1 scanned
      cases returned
      have shorter := closeCapture_shorter closed
      have unread := (scanColonName_suffix named).length_le
      rw [List.length_cons]
      omega
    · split at scanned
      · obtain ⟨⟨segments, afterNumber⟩, numbered, scanned⟩ := bind_eq_ok_iff.1 scanned
        obtain ⟨⟨name, afterName⟩, named, scanned⟩ := bind_eq_ok_iff.1 scanned
        obtain ⟨after, closed, returned⟩ := bind_eq_ok_iff.1 scanned
        cases returned
        have shorter := closeCapture_shorter closed
        have unread := (scanColonName_suffix named).trans (scanSegments_suffix numbered)
        exact Nat.lt_of_lt_of_le shorter unread.length_le
      · split at scanned
        · obtain ⟨⟨name, afterName⟩, named, scanned⟩ := bind_eq_ok_iff.1 scanned
          obtain ⟨⟨allowed, afterAllowed⟩, listed, scanned⟩ := bind_eq_ok_iff.1 scanned
          obtain ⟨after, closed, returned⟩ := bind_eq_ok_iff.1 scanned
          cases returned
          have shorter := closeCapture_shorter closed
          have unread := (scanOptionalAllowed_suffix listed).trans (scanName_suffix named)
          exact Nat.lt_of_lt_of_le shorter unread.length_le
        · obtain ⟨⟨allowed, afterAllowed⟩, listed, scanned⟩ := bind_eq_ok_iff.1 scanned
          obtain ⟨after, closed, returned⟩ := bind_eq_ok_iff.1 scanned
          cases returned
          have shorter := closeCapture_shorter closed
          exact Nat.lt_of_lt_of_le shorter (scanOptionalAllowed_suffix listed).length_le

theorem scanPair_shorter {input rest : Text} {token : Token}
    (scanned : scanPair input = .ok (token, rest)) :
    rest.length < input.length := by
  unfold scanPair at scanned
  have keyBound := (scanLiteral_suffix input).length_le
  dsimp only at scanned
  split at scanned
  · rename_i value afterKey
    rw [afterKey, List.length_cons] at keyBound
    split at scanned
    · cases scanned
    · split at scanned
      · obtain ⟨⟨block, after⟩, found, scanned⟩ := bind_eq_ok_iff.1 scanned
        have shorter := scanCaptureBody_shorter found
        have tailBound : value.tail.length ≤ value.length := by simp
        dsimp only at scanned
        split at scanned
        · cases scanned
          omega
        · cases scanned
      · split at scanned
        · cases scanned
        · cases scanned
          have valueBound := (scanLiteral_suffix value).length_le
          omega
  · cases scanned

/-- A token takes at least one character. -/
theorem scanToken_shorter {state : State} {input rest : Text} {token : Token}
    (scanned : scanToken state input = .ok (token, rest)) :
    rest.length < input.length := by
  unfold scanToken at scanned
  split at scanned
  · cases scanned
  · rename_i c more
    have oneCharacter : more.length < (c :: more).length := by simp
    split at scanned
    · exact scanPair_shorter scanned
    · split at scanned
      · cases scanned
        exact oneCharacter
      · split at scanned
        · cases scanned
          exact oneCharacter
        · split at scanned
          · cases scanned
            exact oneCharacter
          · split at scanned
            · cases scanned
              exact oneCharacter
            · split at scanned
              · cases scanned
                exact oneCharacter
              · split at scanned
                · obtain ⟨⟨block, after⟩, found, returned⟩ := bind_eq_ok_iff.1 scanned
                  cases returned
                  exact Nat.lt_trans (scanCaptureBody_shorter found) oneCharacter
                · dsimp only at scanned
                  split at scanned
                  · cases scanned
                  · rename_i nonempty
                    cases scanned
                    exact scanLiteral_shorter nonempty

end TypedRoutes.Pattern
