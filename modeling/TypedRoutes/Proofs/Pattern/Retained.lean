import Mathlib.Data.List.Infix
import TypedRoutes.Proofs.Matching.Trace
import TypedRoutes.Proofs.Pattern.Count

/-!
Contract: the text of a pattern that is read is the text it was read from.

Every reader hands out what it has taken, so the text of a token with what is left behind it is the
text that was there. Two things are written in more than one way: a brace in a query pair, which is
read doubled and written single, and the count of a capture, which is written without leading zeros
in decimal digits. Where neither is in a text, the elements of a position are the text that leads to
it.

Owns: what each reader keeps, the text of a position, and that reading keeps every character.
-/

set_option autoImplicit false

/-! ## Counts -/

namespace TypedRoutes.Number

open TypedRoutes.Text

/-- Digits without a leading zero are the decimal text of their number. -/
theorem naturalText_ofDigits {digits : List Nat} (nonempty : digits ≠ [])
    (valid : ∀ digit ∈ digits, digit < 10) (leading : digits.head? ≠ some 0) :
    naturalText (ofDigits 10 digits) = digits.map hexDigit ∧ ofDigits 10 digits ≠ 0 := by
  induction digits using List.reverseRecOn with
  | nil => exact absurd rfl nonempty
  | append_singleton front last inductionHypothesis =>
    have lastValid : last < 10 := valid last (by simp)
    rw [ofDigits_append, List.map_append, List.map_singleton, ← digitChar_eq_hexDigit lastValid]
    by_cases alone : front = []
    · subst alone
      have positive : last ≠ 0 := fun zero => leading (by simp [zero])
      have value : ofDigits 10 [] * 10 + last = last := by simp [ofDigits]
      rw [value, naturalText, if_pos lastValid]
      exact ⟨rfl, positive⟩
    · have leadingFront : front.head? ≠ some 0 := by
        rwa [List.head?_append_of_ne_nil _ alone] at leading
      obtain ⟨written, positive⟩ := inductionHypothesis alone
        (fun digit member => valid digit (List.mem_append_left _ member)) leadingFront
      have quotient : (ofDigits 10 front * 10 + last) / 10 = ofDigits 10 front := by omega
      have remainder : (ofDigits 10 front * 10 + last) % 10 = last := by omega
      rw [naturalText, if_neg (by omega), quotient, remainder, written]
      exact ⟨rfl, by omega⟩

/-- The decimal digits, and no digits of other scripts. -/
def isDecimal (c : Char) : Bool :=
  '0' ≤ c && c ≤ '9'

theorem exists_hexDigit_of_isDecimal {c : Char} (decimal : isDecimal c = true) :
    ∃ digit < 10, c = hexDigit digit := by
  rw [isDecimal, Bool.and_eq_true, decide_eq_true_eq, decide_eq_true_eq] at decimal
  have lower : 48 ≤ c.toNat := decimal.1
  have upper : c.toNat ≤ 57 := decimal.2
  refine ⟨c.toNat - 48, by omega, ?_⟩
  have same : 0x30 + (c.toNat - 48) = c.toNat := by omega
  rw [hexDigit, if_pos (by omega), same, Char.ofNat_toNat]

theorem exists_digits_of_isDecimal {text : Text} (decimal : ∀ c ∈ text, isDecimal c = true) :
    ∃ digits : List Nat, text = digits.map hexDigit ∧ ∀ digit ∈ digits, digit < 10 := by
  induction text with
  | nil => exact ⟨[], rfl, nofun⟩
  | cons c rest inductionHypothesis =>
    obtain ⟨first, others⟩ := List.forall_mem_cons.1 decimal
    obtain ⟨digit, below, rfl⟩ := exists_hexDigit_of_isDecimal first
    obtain ⟨digits, rfl, valid⟩ := inductionHypothesis others
    exact ⟨digit :: digits, rfl, List.forall_mem_cons.2 ⟨below, valid⟩⟩

end TypedRoutes.Number

namespace TypedRoutes.Pattern

open TypedRoutes.Text TypedRoutes.Number TypedRoutes.Matching

/-- Whether the count of a capture is written in decimal digits, without a leading zero. -/
def IsPlainCount (count : Text) : Prop :=
  (∀ c ∈ count, isDecimal c = true) ∧ count.head? ≠ some '0'

instance (count : Text) : Decidable (IsPlainCount count) :=
  decidable_of_iff (count.all isDecimal = true ∧ count.head? ≠ some '0') (by
    rw [List.all_eq_true, IsPlainCount])

/-- A plain count is the decimal text of the number that it is read as. -/
theorem integerText_of_isPlainCount {count : Text} {segments : Int} (plain : IsPlainCount count)
    (nonempty : count ≠ []) (allDigits : ∀ c ∈ count, isDigit c = true)
    (accepted : readInteger 10 count = .ok segments) :
    integerText segments = count := by
  have short : count.length ≤ digitLimit := by
    by_contra many
    obtain ⟨error, refused⟩ :=
      (readInteger_ten_error_iff nonempty allDigits).2 (.inr (Nat.lt_of_not_le many))
    rw [refused] at accepted
    cases accepted
  obtain ⟨digits, rfl, valid⟩ := exists_digits_of_isDecimal plain.1
  have begun : digits ≠ [] := by
    rintro rfl
    exact nonempty rfl
  have leading : digits.head? ≠ some 0 := by
    intro zero
    refine plain.2 ?_
    rw [List.head?_map, zero]
    rfl
  rw [List.length_map] at short
  have signless := splitSign_digits begun fun digit member => (valid digit member).trans (by decide)
  rw [readInteger_eq_of_digits (.inl rfl) begun valid (fun _ => short) signless] at accepted
  cases accepted
  exact (naturalText_ofDigits begun valid leading).1

/-! ## Parts of tokens -/

theorem escapeBraces_scanLiteral (input : Text) :
    escapeBraces (scanLiteral input).1 ++ (scanLiteral input).2 = input := by
  unfold escapeBraces
  fun_induction scanLiteral input with
  | case1 rest literal after scanned inductionHypothesis =>
    rw [scanned] at inductionHypothesis
    rw [← inductionHypothesis]
    rfl
  | case2 rest literal after scanned inductionHypothesis =>
    rw [scanned] at inductionHypothesis
    rw [← inductionHypothesis]
    rfl
  | case3 c rest => rfl
  | case4 c rest _ _ free literal after scanned inductionHypothesis =>
    rw [scanned] at inductionHypothesis
    have single : ¬(c = '{' ∨ c = '}') := by
      rintro (rfl | rfl) <;> exact free rfl
    rw [List.flatMap_cons, if_neg single, ← inductionHypothesis]
    rfl
  | case5 => rfl

theorem join_append_last (values : List Text) (last more : Text) :
    Text.join ['|'] (values ++ [last ++ more]) = Text.join ['|'] (values ++ [last]) ++ more := by
  rw [join_append_singleton, join_append_singleton, List.append_assoc]

theorem join_append_nil (values : List Text) (last : Text) :
    Text.join ['|'] (values ++ [last] ++ [[]]) = Text.join ['|'] (values ++ [last]) ++ ['|'] := by
  rw [join_append_singleton, join_append_singleton, List.flatMap_append]
  simp

/-- The listed texts with what is left behind their bracket are what was there, behind the texts
read before. -/
theorem join_scanAllowed {values allowed : List Text} {current input rest : Text}
    (scanned : scanAllowed values current input = .ok (allowed, rest)) :
    Text.join ['|'] (values ++ [current]) ++ input = Text.join ['|'] allowed ++ ')' :: rest := by
  induction input generalizing values current with
  | nil => cases scanned
  | cons c tail inductionHypothesis =>
    unfold scanAllowed at scanned
    split at scanned
    · rename_i closes
      cases scanned
      rw [closes.1]
    · split at scanned
      · cases scanned
      · split at scanned
        · rename_i bar
          split at scanned
          · cases scanned
          · rw [← inductionHypothesis scanned, join_append_nil, bar, List.append_assoc]
            rfl
        · rw [← inductionHypothesis scanned, join_append_last, List.append_assoc]
          rfl

theorem scanOptionalAllowed_eq {input rest : Text} {allowed : Option (List Text)} (extent : Extent)
    (name : Option Text) (scanned : scanOptionalAllowed input = .ok (allowed, rest)) :
    Capture.allowedText ⟨extent, name, allowed⟩ ++ rest = input := by
  unfold scanOptionalAllowed at scanned
  unfold Capture.allowedText
  split at scanned
  · obtain ⟨⟨texts, after⟩, found, returned⟩ := bind_eq_ok_iff.1 scanned
    cases returned
    have kept := join_scanAllowed found
    rw [List.nil_append, Text.join, List.nil_append] at kept
    simp [kept]
  · cases scanned
    rfl

/-- The count of a capture is the number that its digits are read as. -/
theorem exists_count_of_scanSegments {first : Char} {more rest : Text} {segments : Int}
    (digit : isDigit first = true) (scanned : scanSegments (first :: more) = .ok (segments, rest)) :
    (first :: more).takeWhile isDigit ≠ [] ∧
      readInteger 10 ((first :: more).takeWhile isDigit) = .ok segments ∧
        (first :: more).takeWhile isDigit ++ rest = first :: more := by
  have begun : (first :: more).takeWhile isDigit ≠ [] := by
    rw [List.takeWhile_cons_of_pos digit]
    exact List.cons_ne_nil _ _
  refine ⟨begun, ?_⟩
  rw [scanSegments_cons] at scanned
  split at scanned
  · cases scanned
  · split at scanned
    · cases scanned
    · cases scanned
    · rename_i accepted
      cases scanned
      exact ⟨accepted, List.takeWhile_append_dropWhile⟩

/-- What stands in front of the list of a capture is its head, whose count may be in digits of any
script and begin with zeros. -/
theorem exists_head_of_scanInside {body rest : Text} {block : Capture}
    (scanned : scanInside body = .ok (block, rest)) :
    ∃ head, head ++ block.allowedText ++ rest = body ∧
      (head = block.head ∨
        ∃ segments, block.extent = .exactly segments ∧
          head = body.takeWhile isDigit ++ colonText block.name ∧
            body.takeWhile isDigit ≠ [] ∧
              readInteger 10 (body.takeWhile isDigit) = .ok segments) := by
  cases body with
  | nil => cases scanned
  | cons first more =>
    rw [scanInside] at scanned
    by_cases star : first = '*'
    · rw [if_pos star] at scanned
      obtain ⟨⟨name, after⟩, named, returned⟩ := bind_eq_ok_iff.1 scanned
      cases returned
      refine ⟨_, ?_, .inl rfl⟩
      rw [Capture.head_eq, scanColonName_eq named, star]
      simp [Capture.allowedText]
    · rw [if_neg star] at scanned
      by_cases digit : isDigit first = true
      · rw [if_pos digit] at scanned
        obtain ⟨⟨segments, afterNumber⟩, numbered, scanned⟩ := bind_eq_ok_iff.1 scanned
        obtain ⟨⟨name, after⟩, named, returned⟩ := bind_eq_ok_iff.1 scanned
        cases returned
        obtain ⟨begun, accepted, kept⟩ := exists_count_of_scanSegments digit numbered
        refine ⟨_, ?_, .inr ⟨segments, rfl, rfl, begun, accepted⟩⟩
        rw [scanColonName_eq named] at kept
        simpa [Capture.allowedText] using kept
      · rw [if_neg digit] at scanned
        by_cases inName : isNameChar first = true
        · rw [if_pos inName] at scanned
          obtain ⟨⟨name, afterName⟩, named, scanned⟩ := bind_eq_ok_iff.1 scanned
          obtain ⟨⟨allowed, after⟩, listed, returned⟩ := bind_eq_ok_iff.1 scanned
          cases returned
          refine ⟨_, ?_, .inl rfl⟩
          rw [scanName_eq named, ← scanOptionalAllowed_eq .one (some name) listed, Capture.head_eq]
          exact List.append_assoc _ _ _
        · rw [if_neg inName] at scanned
          obtain ⟨⟨allowed, after⟩, listed, returned⟩ := bind_eq_ok_iff.1 scanned
          cases returned
          exact ⟨_, scanOptionalAllowed_eq .one none listed, .inl rfl⟩

theorem scanInside_eq {body rest : Text} {block : Capture}
    (plain : IsPlainCount (body.takeWhile isDigit))
    (scanned : scanInside body = .ok (block, rest)) :
    block.head ++ block.allowedText ++ rest = body := by
  obtain ⟨head, kept, same | ⟨segments, extent, same, begun, accepted⟩⟩ :=
    exists_head_of_scanInside scanned
  · rw [← same]
    exact kept
  · have allDigits : ∀ c ∈ body.takeWhile isDigit, isDigit c = true :=
      List.all_eq_true.1 List.all_takeWhile
    have counted := integerText_of_isPlainCount plain begun allDigits accepted
    rw [Capture.head_eq, extent]
    dsimp only
    rw [counted, ← same]
    exact kept

/-- A capture is the inside that is read of it, and a closing brace. -/
theorem scanInside_of_scanCaptureBody {body rest : Text} {block : Capture}
    (scanned : scanCaptureBody body = .ok (block, rest)) :
    scanInside body = .ok (block, '}' :: rest) := by
  rw [scanCaptureBody_eq] at scanned
  obtain ⟨⟨found, after⟩, inside, scanned⟩ := bind_eq_ok_iff.1 scanned
  obtain ⟨behind, closed, returned⟩ := bind_eq_ok_iff.1 scanned
  cases returned
  unfold closeCapture at closed
  split at closed
  · cases closed
    exact inside
  · cases closed

theorem source_append_of_scanCaptureBody {body rest : Text} {block : Capture}
    (plain : IsPlainCount (body.takeWhile isDigit))
    (scanned : scanCaptureBody body = .ok (block, rest)) :
    block.source ++ rest = '{' :: body := by
  rw [← scanInside_eq plain (scanInside_of_scanCaptureBody scanned)]
  simp [Capture.source]

/-! ## Tokens -/

instance (text : Text) : Decidable (IsBraceless text) :=
  List.decidableBAll _ text

instance : (token : Token) → Decidable token.IsPrintable
  | .pair key (.literal value) => inferInstanceAs (Decidable (IsBraceless key ∧ IsBraceless value))
  | .pair key (.capture _) => inferInstanceAs (Decidable (IsBraceless key))
  | .slash | .literal _ | .capture _ | .question | .ampersand | .hash | .stop | .fixed _ =>
    isTrue trivial

/-- Whether every capture that a state opens at the start of a text has a plain count, if any. -/
def HasPlainStart (state : State) (input : Text) : Prop :=
  ∀ opening inside, input = opening ++ inside → OpensCapture state opening →
    IsPlainCount (inside.takeWhile isDigit)

theorem source_append_of_scanPair {state : State} {input rest : Text} {token : Token}
    (awaits : (state.inQuery && state.awaitsPair) = true) (plain : HasPlainStart state input)
    (printable : token.IsPrintable) (scanned : scanPair input = .ok (token, rest)) :
    token.source ++ rest = input := by
  obtain ⟨key, value, read, keyed, taken⟩ := exists_value_of_scanPair scanned
  have kept := escapeBraces_scanLiteral input
  rw [read] at kept
  rcases taken with ⟨block, rfl, _, capture, found⟩ | ⟨text, rfl, _, literal⟩
  · obtain ⟨inside, rfl⟩ := exists_of_startsWithCapture capture
    have nonempty : (scanLiteral input).1 ≠ [] := by
      rw [read]
      exact keyed
    obtain ⟨lexeme, isKey, whole⟩ := exists_key_of_scanLiteral nonempty
    rw [read] at whole
    have count := plain (lexeme ++ ['=', '{']) inside (by simp [whole]) (.value awaits isKey)
    rw [escapeBraces_eq_self printable] at kept
    rw [Token.source, List.append_assoc, List.cons_append,
      source_append_of_scanCaptureBody count found]
    exact kept
  · have keptValue := escapeBraces_scanLiteral value
    rw [literal, escapeBraces_eq_self printable.2] at keptValue
    rw [escapeBraces_eq_self printable.1] at kept
    rw [Token.source, List.append_assoc, List.cons_append, keptValue]
    exact kept

/-- A token is kept, if its count is plain and it has no brace where braces are not doubled. -/
theorem source_append_of_scanToken {state : State} {c : Char} {input rest : Text} {token : Token}
    (plain : HasPlainStart state (c :: input)) (printable : token.IsPrintable)
    (scanned : scanToken state (c :: input) = .ok (token, rest)) :
    token.source ++ rest = c :: input := by
  rcases scanToken_cons state c with ⟨_, written, _, _, law, _⟩ | ⟨awaits, law⟩ | ⟨elsewhere, law⟩
  · rw [law] at scanned
    cases scanned
    rw [written]
    rfl
  · rw [law] at scanned
    exact source_append_of_scanPair awaits plain printable scanned
  · rw [law] at scanned
    split at scanned
    · rename_i capture
      obtain ⟨⟨block, after⟩, found, returned⟩ := bind_eq_ok_iff.1 scanned
      cases returned
      obtain ⟨_, same⟩ := exists_of_startsWithCapture capture
      obtain ⟨rfl, rfl⟩ := List.cons.inj same
      exact source_append_of_scanCaptureBody (plain ['{'] input rfl (.token elsewhere)) found
    · split at scanned
      · cases scanned
      · cases scanned
        exact escapeBraces_scanLiteral (c :: input)

/-! ## Positions -/

/-- The text of levels that wait, each up to the group that it waits for. -/
def waitingSource : List Level → Text
  | [] => []
  | outer :: outers => waitingSource outers ++ (outer.elements.source ++ ['('])

namespace Position

def source (position : Position) : Text :=
  waitingSource position.outers ++ position.level.elements.source

def tokens (position : Position) : List Token :=
  (position.outers.flatMap fun outer => outer.elements.flatten) ++ position.level.elements.flatten

end Position

theorem source_push (level : Level) (element : Element Token) (next : State) :
    (level.push element next).elements.source =
      level.elements.source ++ Pattern.source (.single element) :=
  Pattern.source_append _ _

theorem flatten_push (level : Level) (element : Element Token) (next : State) :
    (level.push element next).elements.flatten =
      level.elements.flatten ++ Grouped.flatten (.single element) :=
  Grouped.flatten_append _ _

/-- Whether every capture of a text that the reader comes to has a plain count, if any. -/
def HasPlainCounts (text : Text) : Prop :=
  ∀ seen rest position, text = seen ++ rest → Reaches seen position →
    HasPlainStart position.level.state rest

/-- Counts are plain where they are so behind all opening braces, be they doubled or not. -/
theorem hasPlainCounts_of_braces {text : Text}
    (plain :
      ∀ behind ∈ text.tails, behind.head? = some '{' →
        IsPlainCount (behind.tail.takeWhile isDigit)) :
    HasPlainCounts text := by
  rintro seen _ position rfl _ opening inside rfl opens
  refine plain ('{' :: inside) ((List.mem_tails _ _).2 ?_) rfl
  cases opens with
  | token => exact List.suffix_append seen _
  | @value key =>
    refine ⟨seen ++ (key ++ ['=']), ?_⟩
    simp

theorem HasPlainStart.of_append {state : State} {input behind : Text}
    (plain : HasPlainStart state (input ++ behind)) :
    HasPlainStart state input := by
  rintro opening inside rfl opens
  obtain ⟨decimal, leading⟩ := plain opening (inside ++ behind) (by simp) opens
  have shorter : inside.takeWhile isDigit <+: (inside ++ behind).takeWhile isDigit := by
    rw [List.takeWhile_append]
    split
    · exact (List.takeWhile_prefix _).trans (List.prefix_append _ _)
    · exact List.prefix_rfl
  refine ⟨fun c member => decimal c (shorter.subset member), fun zero => leading ?_⟩
  obtain ⟨more, same⟩ := shorter
  rw [← same]
  cases count : inside.takeWhile isDigit with
  | nil =>
    rw [count] at zero
    cases zero
  | cons c others =>
    rw [count] at zero
    exact zero

/-- The elements of a position are the text that leads to it. -/
theorem Reaches.source_eq {seen rest : Text} {position : Position} (reaches : Reaches seen position)
    (plain : HasPlainCounts (seen ++ rest))
    (printable : ∀ token ∈ position.tokens, token.IsPrintable) :
    position.source = seen := by
  induction reaches generalizing rest with
  | start => rfl
  | @token seen lexeme position c token next before _ scanned _ _ _ inductionHypothesis =>
    rw [List.append_assoc] at plain
    have start := plain seen _ position rfl before
    have same : (position.take token next).tokens = position.tokens ++ [token] := by
      rw [Position.take, Position.tokens, flatten_push, ← List.append_assoc]
      rfl
    rw [same] at printable
    have here := inductionHypothesis plain fun other member =>
      printable other (List.mem_append_left _ member)
    have alone := scanned []
    rw [List.append_nil, Token.goOn_eq_iff.2 fun _ => rfl] at alone
    have kept := source_append_of_scanToken start.of_append (printable token (by simp)) alone
    rw [Position.take, Position.source, source_push, ← List.append_assoc]
    rw [Position.source] at here
    rw [here, ← kept]
    simp [Grouped.single, Grouped.cons, Pattern.source]
  | @opening seen position before _ inductionHypothesis =>
    rw [List.append_assoc] at plain
    have here := inductionHypothesis plain fun token member => by
      refine printable token ?_
      rcases List.mem_append.1 member with waiting | inLevel
      · exact List.mem_append_left _ (List.mem_append_right _ waiting)
      · exact List.mem_append_left _ (List.mem_append_left _ inLevel)
    rw [Position.source] at here
    rw [Position.enter, Position.source, waitingSource, ← List.append_assoc, here]
    exact List.append_nil _
  | @closing seen position outer outers next before waiting _ _ inductionHypothesis =>
    rw [List.append_assoc] at plain
    have here := inductionHypothesis plain fun token member => by
      refine printable token ?_
      rw [Position.leave, Position.tokens, flatten_push]
      rw [Position.tokens, waiting] at member
      simp only [Grouped.single, Grouped.cons, Grouped.flatten, List.flatMap_cons,
        List.mem_append] at member ⊢
      tauto
    rw [Position.source, waiting] at here
    rw [Position.leave, Position.source, source_push, ← here]
    simp [waitingSource, Grouped.single, Grouped.cons, Pattern.source]

/-- What is read on a level leads the reader on to the end of it. -/
theorem Reads.exists_reaches {inGroup : Bool} {state final : State} {input rest seen : Text}
    {elements : Pattern} {position : Position}
    (reads : Reads inGroup state input elements final rest) (reaches : Reaches seen position)
    (leaves : position.Leaves input) (depth : inGroup = position.inGroup)
    (current : position.level.state = state) :
    ∃ more behind, input = more ++ rest ∧ Reaches (seen ++ more) behind ∧ behind.Leaves rest ∧
      behind.outers = position.outers ∧ behind.level = position.level.extend elements final := by
  induction reads generalizing seen position with
  | done =>
    subst current
    exact ⟨[], position, rfl, by rwa [List.append_nil], leaves, rfl, (Level.extend_nil _).symm⟩
  | @token _ _ _ _ c _ _ _ _ _ plain scanned unmarked stepped _ inductionHypothesis =>
    subst depth current
    obtain ⟨lexeme, rfl, further, ended⟩ :=
      reaches.exists_token leaves plain scanned unmarked stepped
    obtain ⟨more, behind, rfl, reached, left, outers, level⟩ :=
      inductionHypothesis further ended rfl rfl
    refine ⟨c :: (lexeme ++ more), behind, by simp, ?_, left, outers, ?_⟩
    · rwa [List.append_assoc, List.cons_append] at reached
    · rw [level]
      exact Level.extend_push position.level _ _ _ _
  | @group _ _ _ _ _ _ _ _ _ inner _ opening _ nonempty stepped _ withinHypothesis
      inductionHypothesis =>
    subst depth current
    obtain ⟨inside, last, rfl, reached, _, waiting, level⟩ :=
      withinHypothesis (reaches.opening ⟨_, opening⟩) nofun rfl rfl
    have whole : last.level.elements = inner := by
      rw [level]
      rfl
    rw [← whole] at nonempty stepped
    obtain ⟨more, behind, rfl, further, left, outers, levelBehind⟩ :=
      inductionHypothesis (reached.closing waiting nonempty stepped) nofun rfl rfl
    refine ⟨'(' :: (inside ++ ')' :: more), behind, by simp, ?_, left, outers, ?_⟩
    · simpa using further
    · rw [levelBehind, ← whole]
      exact Level.extend_push position.level _ _ _ _

end TypedRoutes.Pattern

namespace TypedRoutes

open TypedRoutes.Pattern

/-- Reading keeps every character. Where no query pair has a brace in its key or its literal value,
and every count is written in decimal digits without a leading zero, the text of a pattern is the
text that it was read from. -/
theorem Pattern.source_of_read {text : Text} {pattern : Pattern}
    (accepted : Pattern.read text = .ok pattern)
    (printable : ∀ token ∈ pattern.flatten, token.IsPrintable) (plain : HasPlainCounts text) :
    pattern.source = text := by
  obtain ⟨_, final, reads⟩ := read_eq_ok_iff.1 accepted
  obtain ⟨more, behind, rfl, reached, _, outers, level⟩ := reads.exists_reaches .start nofun rfl rfl
  have read : behind.level.elements = pattern := by
    rw [level]
    rfl
  have outside : behind.outers = [] := outers
  have kept := reached.source_eq plain (by simpa [Position.tokens, outside, read] using printable)
  rw [Position.source, outside, read, waitingSource, List.nil_append, List.nil_append] at kept
  rw [kept, List.append_nil]

/-- The law at a pattern with a doubled brace, a count, a group and a query. -/
theorem Pattern.source_of_read_counted :
    ∃ pattern, Pattern.read "/a\x7b\x7bb/{12:id}(-{kind(x|y)})?q={v}".toList = .ok pattern ∧
      (∀ token ∈ pattern.flatten, token.IsPrintable) ∧
        HasPlainCounts "/a\x7b\x7bb/{12:id}(-{kind(x|y)})?q={v}".toList ∧
          pattern.source = "/a\x7b\x7bb/{12:id}(-{kind(x|y)})?q={v}".toList := by
  have readable : (Pattern.read "/a\x7b\x7bb/{12:id}(-{kind(x|y)})?q={v}".toList).toOption.map
      (fun pattern => pattern.flatten.all fun token => decide token.IsPrintable) = some true := by
    decide +kernel
  have plain : HasPlainCounts "/a\x7b\x7bb/{12:id}(-{kind(x|y)})?q={v}".toList :=
    hasPlainCounts_of_braces (by decide +kernel)
  cases accepted : Pattern.read "/a\x7b\x7bb/{12:id}(-{kind(x|y)})?q={v}".toList with
  | error refusal =>
    rw [accepted] at readable
    cases readable
  | ok pattern =>
    rw [accepted] at readable
    have printable : ∀ token ∈ pattern.flatten, token.IsPrintable := fun token member =>
      of_decide_eq_true (List.all_eq_true.1 (Option.some.inj readable) token member)
    exact ⟨pattern, rfl, printable, plain, Pattern.source_of_read accepted printable plain⟩

end TypedRoutes
