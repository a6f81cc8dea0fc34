import TypedRoutes.Pattern.Source
import TypedRoutes.Proofs.Pattern.Derivation
import TypedRoutes.Proofs.Pattern.Recognized
import TypedRoutes.Proofs.Text.Identifier

/-!
Contract: readers of lexemes take back what the writer has written, whatever follows.

Each law says of one writer that its text, with any text behind it, is recognized as what was
written and nothing more. Only a literal needs to know that no other literal goes on behind it.

Owns: one law for each reader, up to tokens.
-/

set_option autoImplicit false

namespace TypedRoutes.Pattern

open TypedRoutes.Text TypedRoutes.Number

/-! ## Literals -/

theorem scanLiteral_eq_of_fst_eq_nil (rest : Text) (exhausted : (scanLiteral rest).1 = []) :
    scanLiteral rest = ([], rest) := by
  unfold scanLiteral at *
  split at exhausted
  · cases exhausted
  · cases exhausted
  · split at exhausted
    · rename_i reserved
      rw [if_pos reserved]
    · cases exhausted
  · rfl

theorem isReserved_eq_false {c : Char} (free : isBarred c = false) (notOpening : c ≠ '{')
    (notClosing : c ≠ '}') :
    isReserved c = false := by
  simp only [isReserved, isBarred, List.contains_eq_mem, List.mem_cons, List.not_mem_nil,
    decide_eq_false_iff_not] at *
  tauto

/-- A literal is taken back from its text with doubled braces, together with a literal behind it. -/
theorem scanLiteral_escapeBraces {text : Text} (unbarred : ∀ c ∈ text, isBarred c = false)
    (rest : Text) :
    scanLiteral (escapeBraces text ++ rest) =
      (text ++ (scanLiteral rest).1, (scanLiteral rest).2) := by
  induction text with
  | nil => rfl
  | cons c more inductionHypothesis =>
    obtain ⟨free, moreFree⟩ := List.forall_mem_cons.1 unbarred
    have later := inductionHypothesis moreFree
    unfold escapeBraces at *
    rw [List.flatMap_cons]
    by_cases opening : c = '{'
    · subst opening
      simp [scanLiteral, later]
    · by_cases closing : c = '}'
      · subst closing
        simp [scanLiteral, later]
      · have notReserved := isReserved_eq_false free opening closing
        simp only [opening, closing, or_self, if_false, List.cons_append, List.nil_append]
        rw [scanLiteral]
        · simp [notReserved, later]
        · exact fun _ same => absurd same opening
        · exact fun _ same => absurd same closing

theorem escapeBraces_eq_self {text : Text} (braceless : IsBraceless text) :
    escapeBraces text = text := by
  induction text with
  | nil => rfl
  | cons c more inductionHypothesis =>
    obtain ⟨free, moreFree⟩ := List.forall_mem_cons.1 braceless
    have later := inductionHypothesis moreFree
    unfold escapeBraces at *
    simp [free.1, free.2, later]

theorem startsWithCapture_escapeBraces {text : Text} (nonempty : text ≠ []) (rest : Text) :
    startsWithCapture (escapeBraces text ++ rest) = false := by
  cases text with
  | nil => exact absurd rfl nonempty
  | cons c more =>
    unfold escapeBraces
    rw [List.flatMap_cons]
    by_cases opening : c = '{'
    · subst opening
      simp [startsWithCapture]
    · by_cases closing : c = '}'
      · subst closing
        simp [startsWithCapture]
      · simp only [opening, closing, or_self, if_false, List.cons_append, List.nil_append]
        unfold startsWithCapture
        split
        · rfl
        · rename_i same
          exact absurd (List.cons.inj same).1 opening
        · rfl

/-! ## Names, lists and numbers -/

theorem nameFault?_eq_none {name : Text} (identifier : isIdentifier name = true) (rest : Text) :
    nameFault? name rest = none := by
  cases name with
  | nil => cases identifier
  | cons first more =>
    simp only [isIdentifier, Bool.and_eq_true, List.all_eq_true] at identifier
    have ended : more.dropWhile continuesIdentifier = [] :=
      List.dropWhile_eq_nil_iff.2 identifier.2
    simp [nameFault?, identifier.1, ended]

theorem isNameChar_of_continuesIdentifier {c : Char} (continues : continuesIdentifier c = true) :
    isNameChar c = true := by
  have notBracket (bracket : Char) (isBracket : bracket ∈ ['}', '(']) : c ≠ bracket := by
    rintro rfl
    rw [not_continuesIdentifier_of_mem (by simp only [List.mem_cons] at *; tauto)] at continues
    cases continues
  simp [isNameChar, notBracket '}' (by simp), notBracket '(' (by simp)]

theorem scanName_append {name rest : Text} (identifier : isIdentifier name = true)
    (ended : rest.takeWhile isNameChar = []) :
    scanName (name ++ rest) = .ok (name, rest) := by
  have characters : ∀ c ∈ name, isNameChar c = true := fun c member =>
    isNameChar_of_continuesIdentifier (continuesIdentifier_of_isIdentifier identifier c member)
  have unread : rest.dropWhile isNameChar = rest := by
    have whole := List.takeWhile_append_dropWhile (p := isNameChar) (l := rest)
    rwa [ended] at whole
  unfold scanName
  simp only [List.takeWhile_append_of_pos characters, List.dropWhile_append_of_pos characters,
    ended, unread, List.append_nil, nameFault?_eq_none identifier]

/-- Characters fit for a list are read as part of the text that has begun. -/
theorem scanAllowed_append {values : List Text} {current text : Text}
    (unmarked : ∀ c ∈ text, isListMark c = false) (rest : Text) :
    scanAllowed values current (text ++ rest) = scanAllowed values (current ++ text) rest := by
  induction text generalizing current with
  | nil => simp
  | cons c more inductionHypothesis =>
    obtain ⟨free, moreFree⟩ := List.forall_mem_cons.1 unmarked
    simp only [isListMark, List.contains_eq_mem, List.mem_cons, List.not_mem_nil,
      decide_eq_false_iff_not, not_or] at free
    obtain ⟨notOpening, notClosing, notOpen, notClose, notBar, _⟩ := free
    rw [List.cons_append, scanAllowed]
    simp only [notOpening, notClosing, notOpen, notClose, notBar, false_and, or_self, if_false]
    rw [inductionHypothesis moreFree, List.append_assoc]
    rfl

/-- Listed texts are taken back from between their bars, up to the closing bracket. -/
theorem scanAllowed_join {allowed : List Text} (values : List Text) (nonempty : allowed ≠ [])
    (listable : ∀ text ∈ allowed, IsListable text) (rest : Text) :
    scanAllowed values [] (Text.join ['|'] allowed ++ ')' :: rest) =
      .ok (values ++ allowed, rest) := by
  induction allowed generalizing values with
  | nil => exact absurd rfl nonempty
  | cons text more inductionHypothesis =>
    obtain ⟨⟨some, unmarked⟩, moreListable⟩ := List.forall_mem_cons.1 listable
    cases more with
    | nil =>
      rw [Text.join, scanAllowed_append unmarked, scanAllowed]
      simp [some]
    | cons second others =>
      have later := inductionHypothesis (values ++ [text]) (by simp) moreListable
      rw [Text.join, List.append_assoc, List.append_assoc, scanAllowed_append unmarked,
        List.nil_append, List.cons_append, List.nil_append, scanAllowed]
      · simp [some, later]
      · simp

def colonText : Option Text → Text
  | none => []
  | some name => ':' :: name

theorem scanColonName_append {name : Option Text} (named : ∀ text ∈ name, isIdentifier text = true)
    (rest : Text) :
    scanColonName (colonText name ++ '}' :: rest) = .ok (name, '}' :: rest) := by
  cases name with
  | none => rfl
  | some text =>
    have ended : ('}' :: rest).takeWhile isNameChar = [] := rfl
    rw [colonText, List.cons_append, scanColonName, scanName_append (named text rfl) ended]
    rfl

theorem scanOptionalAllowed_append {block : Capture} (sound : block.IsSound) (rest : Text) :
    scanOptionalAllowed (block.allowedText ++ '}' :: rest) = .ok (block.allowed, '}' :: rest) := by
  unfold Capture.allowedText
  cases listed : block.allowed with
  | none => rfl
  | some allowed =>
    obtain ⟨_, nonempty, listable⟩ := sound.listed allowed listed
    simp only [List.cons_append, List.append_assoc, List.nil_append]
    rw [scanOptionalAllowed, scanAllowed_join [] nonempty listable]
    rfl

theorem isDigit_hexDigit :
    ∀ value : Fin 10, isDigit (hexDigit value) = true ∧ hexDigit value ≠ '*' := by
  decide +kernel

/-- A number of segments is taken back if a mark behind it ends it. -/
theorem scanSegments_append {segments : Int} {mark : Char} (positive : 1 ≤ segments)
    (bounded : segments < (10 ^ digitLimit : Nat))
    (ended : isDigit mark = false ∧ (isLetter mark || decide (mark = '_')) = false) (rest : Text) :
    scanSegments (integerText segments ++ mark :: rest) = .ok (segments, mark :: rest) := by
  obtain ⟨n, rfl⟩ := Int.eq_ofNat_of_zero_le (by omega : 0 ≤ segments)
  have small : (n : Int).natAbs < 10 ^ digitLimit := by
    rw [Int.natAbs_natCast]
    exact Int.ofNat_lt.1 bounded
  have accepted := readInteger_integerText small
  obtain ⟨digits, written, nonempty, valid, _, _⟩ := exists_digits_naturalText n
  have isNumber : integerText n = digits.map hexDigit := written
  rw [isNumber] at accepted ⊢
  have allDigits : ∀ c ∈ digits.map hexDigit, isDigit c = true := by
    intro c member
    obtain ⟨digit, inDigits, rfl⟩ := List.mem_map.1 member
    exact (isDigit_hexDigit ⟨digit, valid digit inDigits⟩).1
  have notZero : (n : Int) ≠ 0 := by omega
  clear small bounded positive
  unfold scanSegments
  simp only [List.takeWhile_append_of_pos allDigits, List.dropWhile_append_of_pos allDigits,
    List.takeWhile_cons, List.dropWhile_cons, ended.1, ended.2, Bool.false_eq_true, if_false,
    List.append_nil]
  split
  · contradiction
  · rw [accepted]
    split
    · contradiction
    · rename_i same
      exact absurd (Except.ok.inj same) notZero
    · rename_i same
      rw [Except.ok.inj same]

/-! ## Captures -/

/-- The text of a capture between its braces, up to the list of allowed texts, by its extent. -/
theorem Capture.head_eq (block : Capture) :
    block.head =
      match block.extent with
      | .one => block.name.getD []
      | .many => '*' :: colonText block.name
      | .exactly segments => integerText segments ++ colonText block.name := by
  unfold Capture.head
  cases block.extent <;> cases block.name <;> simp [colonText]

/-- What stands behind the name of a capture begins with a bracket or a brace. -/
theorem Capture.exists_mark (block : Capture) (rest : Text) :
    ∃ mark more, block.allowedText ++ '}' :: rest = mark :: more ∧ mark ∈ ['(', '}'] := by
  unfold Capture.allowedText
  cases block.allowed with
  | none => exact ⟨'}', rest, rfl, by simp⟩
  | some allowed => exact ⟨'(', _, rfl, by simp⟩

theorem foreign_of_mem {mark : Char} (member : mark ∈ ['(', '}']) :
    mark ≠ '*' ∧ isDigit mark = false ∧ isNameChar mark = false := by
  simp only [List.mem_cons, List.not_mem_nil, or_false] at member
  rcases member with rfl | rfl <;> decide +kernel

theorem Capture.IsSound.allowed_eq_none {block : Capture} (sound : block.IsSound)
    (longer : block.extent ≠ .one) :
    block.allowed = none := by
  cases listed : block.allowed with
  | none => rfl
  | some allowed => exact absurd (sound.listed allowed listed).1 longer

theorem exists_digit_integerText {number : Int} (positive : 1 ≤ number) :
    ∃ first more, integerText number = first :: more ∧ isDigit first = true ∧ first ≠ '*' := by
  obtain ⟨n, rfl⟩ := Int.eq_ofNat_of_zero_le (by omega : 0 ≤ number)
  obtain ⟨digits, written, nonempty, valid, _, _⟩ := exists_digits_naturalText n
  obtain ⟨digit, rest, rfl⟩ := List.exists_cons_of_ne_nil nonempty
  exact ⟨hexDigit digit, rest.map hexDigit, written,
    isDigit_hexDigit ⟨digit, valid digit List.mem_cons_self⟩⟩

/-- A capture is taken back from the text behind its opening brace. -/
theorem scanCaptureBody_append {block : Capture} (sound : block.IsSound) (rest : Text) :
    scanCaptureBody (block.head ++ (block.allowedText ++ '}' :: rest)) = .ok (block, rest) := by
  obtain ⟨extent, name, allowed⟩ := block
  cases extent with
  | many =>
    obtain rfl : allowed = none := sound.allowed_eq_none (by simp)
    have named := scanColonName_append sound.named rest
    simp only [Capture.head_eq, Capture.allowedText, List.nil_append, List.cons_append] at named ⊢
    rw [scanCaptureBody, if_pos rfl, named]
    rfl
  | exactly segments =>
    obtain rfl : allowed = none := sound.allowed_eq_none (by simp)
    obtain ⟨positive, bounded⟩ := sound.counted segments rfl
    obtain ⟨first, more, begins, digit, notStar⟩ := exists_digit_integerText positive
    have named := scanColonName_append sound.named rest
    have counted :
        scanSegments (integerText segments ++ (colonText name ++ '}' :: rest)) =
          .ok (segments, colonText name ++ '}' :: rest) := by
      cases name with
      | none => exact scanSegments_append positive bounded (by decide +kernel) _
      | some text => exact scanSegments_append positive bounded (by decide +kernel) _
    simp only [Capture.head_eq, Capture.allowedText, List.nil_append, List.append_assoc]
      at named ⊢
    rw [begins] at counted ⊢
    rw [List.cons_append] at counted ⊢
    rw [scanCaptureBody, if_neg notStar, if_pos digit, counted]
    simp only [bind, Except.bind, named]
    rfl
  | one =>
    have listed := scanOptionalAllowed_append sound rest
    obtain ⟨mark, behind, begins, isMark⟩ := Capture.exists_mark ⟨.one, name, allowed⟩ rest
    obtain ⟨notStar, noDigit, noName⟩ := foreign_of_mem isMark
    cases name with
    | none =>
      simp only [Capture.head_eq, Option.getD_none, List.nil_append]
      rw [begins] at listed ⊢
      rw [scanCaptureBody, if_neg notStar, if_neg (by simp [noDigit]), if_neg (by simp [noName]),
        listed]
      rfl
    | some text =>
      have identifier := sound.named text rfl
      have ended : (mark :: behind).takeWhile isNameChar = [] := by simp [noName]
      have named := scanName_append identifier ended
      simp only [Capture.head_eq, Option.getD_some]
      rw [begins] at listed ⊢
      cases text with
      | nil => cases identifier
      | cons first more =>
        simp only [isIdentifier, Bool.and_eq_true] at identifier
        have continues := continuesIdentifier_of_startsIdentifier identifier.1
        have notNamed : first ≠ '*' := by
          rintro rfl
          rw [not_continuesIdentifier_of_mem (by simp)] at continues
          cases continues
        rw [List.cons_append] at named ⊢
        rw [scanCaptureBody, if_neg notNamed,
          if_neg (by simp [isDigit_eq_false_of_startsIdentifier identifier.1]),
          if_pos (isNameChar_of_continuesIdentifier continues), named]
        simp only [bind, Except.bind, listed]
        rfl

theorem Capture.source_append (block : Capture) (rest : Text) :
    block.source ++ rest = '{' :: (block.head ++ (block.allowedText ++ '}' :: rest)) := by
  simp [Capture.source]

theorem scanCaptureBody_openingBrace (more : Text) (result : Capture × Text) :
    scanCaptureBody ('{' :: more) ≠ .ok result := by
  have notDigit : isDigit '{' = false := by decide +kernel
  have notStart : startsIdentifier '{' = false := by decide +kernel
  have isName : isNameChar '{' = true := by decide
  intro accepted
  rw [scanCaptureBody, if_neg (by decide), if_neg (by simp [notDigit]), if_pos isName] at accepted
  obtain ⟨⟨name, after⟩, named, _⟩ := bind_eq_ok_iff.1 accepted
  have identifier := scanName_isIdentifier named
  simp only [scanName, List.takeWhile_cons, isName, if_true, nameFault?, notStart,
    Bool.false_eq_true, if_false] at named
  cases named

/-- The text of a capture begins no literal, whatever follows. -/
theorem Capture.begins_source {block : Capture} (sound : block.IsSound) (rest : Text) :
    startsWithCapture (block.source ++ rest) = true ∧
      (scanLiteral (block.source ++ rest)).1 = [] := by
  rw [Capture.source_append]
  have accepted := scanCaptureBody_append sound rest
  cases body : block.head ++ (block.allowedText ++ '}' :: rest) with
  | nil => exact ⟨rfl, rfl⟩
  | cons first more =>
    have notOpening : first ≠ '{' := by
      rintro rfl
      rw [body] at accepted
      exact scanCaptureBody_openingBrace more _ accepted
    constructor
    · simp [startsWithCapture, notOpening]
    · rw [scanLiteral]
      · rfl
      · intro _ _ same
        exact notOpening (List.cons.inj same).1
      · simp

/-! ## Tokens -/

/-- A text without braces is taken back as it stands, together with a literal behind it. -/
theorem scanLiteral_append {text : Text} (unbarred : ∀ c ∈ text, isBarred c = false)
    (braceless : IsBraceless text) (rest : Text) :
    scanLiteral (text ++ rest) = (text ++ (scanLiteral rest).1, (scanLiteral rest).2) := by
  have escaped := scanLiteral_escapeBraces unbarred rest
  rwa [escapeBraces_eq_self braceless] at escaped

/-- A pair is taken back if no literal goes on behind it. -/
theorem scanPair_source {key : Text} {value : PairValue} {rest : Text}
    (sound : (Token.pair key value).IsSound) (printable : (Token.pair key value).IsPrintable)
    (ended : (scanLiteral rest).1 = []) :
    scanPair ((Token.pair key value).source ++ rest) = .ok (.pair key value, rest) := by
  cases value with
  | literal text =>
    obtain ⟨⟨keyed, keyUnbarred⟩, valued, valueUnbarred⟩ := sound
    have begun := scanLiteral_append keyUnbarred printable.1 ('=' :: (text ++ rest))
    have read := scanLiteral_append valueUnbarred printable.2 rest
    have literal := startsWithCapture_escapeBraces valued rest
    rw [escapeBraces_eq_self printable.2] at literal
    rw [scanLiteral_eq_of_fst_eq_nil rest ended, List.append_nil] at read
    rw [scanLiteral_eq_of_fst_eq_nil ('=' :: (text ++ rest)) rfl, List.append_nil] at begun
    rw [Token.source, List.append_assoc, List.cons_append]
    simp [scanPair, begun, keyed, literal, read, valued]
  | capture block =>
    obtain ⟨⟨keyed, keyUnbarred⟩, blockSound, single⟩ := sound
    have begun := scanLiteral_append keyUnbarred printable ('=' :: (block.source ++ rest))
    have capture := (Capture.begins_source blockSound rest).1
    have read := scanCaptureBody_append blockSound rest
    rw [scanLiteral_eq_of_fst_eq_nil ('=' :: (block.source ++ rest)) rfl,
      List.append_nil] at begun
    rw [Token.source, List.append_assoc, List.cons_append]
    rw [Capture.source_append] at begun capture ⊢
    simp [scanPair, begun, keyed, capture, read, single, bind, Except.bind, pure, Except.pure]

theorem unmarked_of_isBarred_eq_false {c : Char} (free : isBarred c = false) :
    c ≠ '?' ∧ c ≠ '&' ∧ c ≠ '#' ∧ c ≠ '!' ∧ c ≠ '/' ∧ c ≠ '(' ∧ c ≠ ')' := by
  simp only [isBarred, List.contains_eq_mem, List.mem_cons, List.not_mem_nil,
    decide_eq_false_iff_not] at free
  tauto

/-- The text of a literal begins with a character that literals can begin with. -/
theorem exists_escapeBraces_eq_cons {text : Text} (plain : IsPlain text) :
    ∃ c more, escapeBraces text = c :: more ∧ isBarred c = false := by
  obtain ⟨first, rest, rfl⟩ := List.exists_cons_of_ne_nil plain.1
  have free := plain.2 first List.mem_cons_self
  unfold escapeBraces
  rw [List.flatMap_cons]
  split
  · exact ⟨first, _, rfl, free⟩
  · exact ⟨first, _, rfl, free⟩

/-- Whether a literal right behind a token would be read as part of it. -/
def Token.runsOn : Token → Bool
  | .literal _ | .pair _ _ => true
  | _ => false

/-- A token is taken back in a state that has a place for it: a pair where one has to come next, any
other token elsewhere. -/
theorem scanToken_source {state : State} {token : Token} {rest : Text} (sound : token.IsSound)
    (printable : token.IsPrintable)
    (placed : token.isPartMark = true ∨
      (∃ key value, token = .pair key value) ∧ (state.inQuery && state.awaitsPair) = true ∨
        (∀ key value, token ≠ .pair key value) ∧ (state.inQuery && state.awaitsPair) = false)
    (ended : token.runsOn = true → (scanLiteral rest).1 = []) :
    ∃ c more, token.source ++ rest = c :: more ∧ isGroupMark c = false ∧
      scanToken state (c :: more) = .ok (token, rest) := by
  cases token with
  | question | ampersand | hash | stop =>
    exact ⟨_, rest, rfl, rfl, by simp [scanToken, isPartMark]⟩
  | slash =>
    have elsewhere : (state.inQuery && state.awaitsPair) = false := by
      simpa [Token.isPartMark] using placed
    exact ⟨_, rest, rfl, rfl, by simp [scanToken, elsewhere]⟩
  | capture block =>
    have elsewhere : (state.inQuery && state.awaitsPair) = false := by
      simpa [Token.isPartMark] using placed
    have begins := (Capture.begins_source sound rest).1
    have read := scanCaptureBody_append sound rest
    rw [Capture.source_append] at begins
    refine ⟨_, _, Capture.source_append block rest, rfl, ?_⟩
    simp [scanToken, elsewhere, begins, read, bind, Except.bind, pure, Except.pure]
  | literal text =>
    have elsewhere : (state.inQuery && state.awaitsPair) = false := by
      simpa [Token.isPartMark] using placed
    obtain ⟨c, more, written, free⟩ := exists_escapeBraces_eq_cons sound
    obtain ⟨notQuestion, notAmpersand, notHash, notStop, notSlash, notOpen, notClose⟩ :=
      unmarked_of_isBarred_eq_false free
    have literal := startsWithCapture_escapeBraces sound.1 rest
    have read := scanLiteral_escapeBraces sound.2 rest
    rw [scanLiteral_eq_of_fst_eq_nil rest (ended rfl), List.append_nil] at read
    rw [written, List.cons_append] at literal read
    refine ⟨c, more ++ rest, ?_, ?_, ?_⟩
    · rw [Token.source, written, List.cons_append]
    · simp [isGroupMark, notOpen, notClose]
    · simp [scanToken, elsewhere, notQuestion, notAmpersand, notHash, notStop, notSlash, literal,
        read, sound.1]
  | pair key value =>
    have awaited : (state.inQuery && state.awaitsPair) = true := by
      simpa [Token.isPartMark] using placed
    have read := scanPair_source sound printable (ended rfl)
    have keyed : IsPlain key := by
      cases value with
      | literal text => exact sound.1
      | capture block => exact sound.1
    obtain ⟨first, more, rfl⟩ := List.exists_cons_of_ne_nil keyed.1
    obtain ⟨notQuestion, notAmpersand, notHash, notStop, _, notOpen, notClose⟩ :=
      unmarked_of_isBarred_eq_false (keyed.2 first List.mem_cons_self)
    obtain ⟨behind, written⟩ : ∃ behind, (Token.pair (first :: more) value).source ++ rest =
        first :: behind := by
      cases value with
      | literal text => exact ⟨_, rfl⟩
      | capture block => exact ⟨_, rfl⟩
    rw [written] at read
    refine ⟨first, behind, written, ?_, ?_⟩
    · simp [isGroupMark, notOpen, notClose]
    · simp [scanToken, awaited, isPartMark, notQuestion, notAmpersand, notHash, notStop, read]
  | fixed text => cases sound

end TypedRoutes.Pattern
