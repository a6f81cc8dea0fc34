import TypedRoutes.Proofs.Pattern.Completeness
import TypedRoutes.Proofs.Pattern.Retained
import TypedRoutes.Proofs.Pattern.Soundness

/-!
Contract: a pattern is read from its own text if and only if no brace is lost in a query pair.

Every lexeme is taken with all its braces, and every token but a query pair is written with as many
as it was read from: what a literal holds once, its text has twice. The key and the literal value of
a pair are written as they are held, so the text of a pattern has fewer braces than the text that it
was read from, by the number of braces in its pairs. What is read from a text that it is the source
of has lost none.

Owns: how many braces tokens and patterns lose, and which of them are read from their own text.
-/

set_option autoImplicit false

namespace TypedRoutes.Pattern

open TypedRoutes.Text TypedRoutes.Number

/-! ## Braces of texts -/

def isBrace (c : Char) : Bool :=
  c = '{' || c = '}'

def braces (text : Text) : Nat :=
  text.countP isBrace

@[simp] theorem braces_nil : braces [] = 0 := rfl

@[simp] theorem braces_cons (c : Char) (text : Text) :
    braces (c :: text) = braces text + if isBrace c then 1 else 0 :=
  List.countP_cons

@[simp] theorem braces_append (first second : Text) :
    braces (first ++ second) = braces first + braces second :=
  List.countP_append

theorem braces_eq_zero_iff {text : Text} : braces text = 0 ↔ IsBraceless text := by
  simp [braces, isBrace, IsBraceless, List.countP_eq_zero]

theorem braces_escapeBraces (text : Text) : braces (escapeBraces text) = 2 * braces text := by
  unfold escapeBraces
  induction text with
  | nil => rfl
  | cons c rest inductionHypothesis =>
    rw [List.flatMap_cons, braces_append, inductionHypothesis, braces_cons]
    by_cases brace : c = '{' ∨ c = '}'
    · have counted : isBrace c = true := by simpa [isBrace] using brace
      rw [if_pos brace, if_pos counted]
      simp only [braces_cons, braces_nil, if_pos counted]
      omega
    · have uncounted : ¬isBrace c = true := by simpa [isBrace] using brace
      rw [if_neg brace, if_neg uncounted]
      simp only [braces_cons, braces_nil, if_neg uncounted]
      omega

theorem braces_eq_zero_of_digits {text : Text} (digits : ∀ c ∈ text, isDigit c = true) :
    braces text = 0 := by
  have foreign : isDigit '{' = false ∧ isDigit '}' = false := by decide +kernel
  rw [braces_eq_zero_iff]
  intro c member
  have digit := digits c member
  constructor
  · rintro rfl
    rw [foreign.1] at digit
    cases digit
  · rintro rfl
    rw [foreign.2] at digit
    cases digit

theorem braces_integerText {number : Int} (positive : 1 ≤ number) :
    braces (integerText number) = 0 := by
  obtain ⟨n, rfl⟩ := Int.eq_ofNat_of_zero_le (by omega : 0 ≤ number)
  obtain ⟨digits, written, _, valid, _, _⟩ := exists_digits_naturalText n
  have isNumber : integerText n = digits.map hexDigit := written
  refine braces_eq_zero_of_digits fun c member => ?_
  rw [isNumber] at member
  obtain ⟨digit, inDigits, rfl⟩ := List.mem_map.1 member
  exact (isDigit_hexDigit ⟨digit, valid digit inDigits⟩).1

/-! ## Braces of tokens -/

/-- How many braces a token is written without: those of a pair are not doubled. -/
def Token.lostBraces : Token → Nat
  | .pair key (.literal value) => braces key + braces value
  | .pair key (.capture _) => braces key
  | _ => 0

/-- A token loses no brace just if it can be written as it stands. -/
theorem Token.lostBraces_eq_zero_iff {token : Token} :
    token.lostBraces = 0 ↔ token.IsPrintable := by
  unfold Token.lostBraces Token.IsPrintable
  split
  · rw [Nat.add_eq_zero_iff, braces_eq_zero_iff, braces_eq_zero_iff]
  · exact braces_eq_zero_iff
  · simp

/-- A token that a literal behind it is kept apart from is no pair, and loses nothing. -/
theorem Token.lostBraces_of_runsOn {token : Token} (single : token.runsOn = false) :
    token.lostBraces = 0 := by
  cases token with
  | pair key value => cases single
  | _ => rfl

/-- The digits of a count have no braces, and neither has the number written for them. -/
theorem braces_scanCaptureBody {body rest : Text} {block : Capture}
    (scanned : scanCaptureBody body = .ok (block, rest)) :
    braces ('{' :: body) = braces (block.source ++ rest) := by
  have inside := scanInside_of_scanCaptureBody scanned
  obtain ⟨head, kept, same | ⟨segments, extent, same, _, _⟩⟩ := exists_head_of_scanInside inside
  · rw [← kept, same]
    simp [Capture.source]
  · have positive := ((scanCaptureBody_isSound scanned).counted segments extent).1
    have allDigits : ∀ c ∈ body.takeWhile isDigit, isDigit c = true :=
      List.all_eq_true.1 List.all_takeWhile
    have uncounted := braces_eq_zero_of_digits allDigits
    have unwritten := braces_integerText positive
    have whole := congrArg braces kept
    rw [same] at whole
    rw [Capture.source, Capture.head_eq, extent]
    simp only [braces_append, braces_cons, braces_nil, List.cons_append] at whole ⊢
    omega

theorem braces_scanLiteral (input : Text) :
    braces input = 2 * braces (scanLiteral input).1 + braces (scanLiteral input).2 := by
  have kept := escapeBraces_scanLiteral input
  rw [← braces_escapeBraces, ← braces_append, kept]

/-- The text of a pair lacks the braces that the pair was read with doubled. -/
theorem braces_scanPair {input rest : Text} {token : Token}
    (scanned : scanPair input = .ok (token, rest)) :
    braces input = braces (token.source ++ rest) + token.lostBraces := by
  obtain ⟨key, value, read, _, taken⟩ := exists_value_of_scanPair scanned
  have keyBraces := braces_scanLiteral input
  rw [read] at keyBraces
  rcases taken with ⟨block, rfl, _, capture, found⟩ | ⟨text, rfl, _, literal⟩
  · obtain ⟨inside, rfl⟩ := exists_of_startsWithCapture capture
    have valueBraces := braces_scanCaptureBody found
    rw [List.tail_cons] at valueBraces
    simp only [Token.source, Token.lostBraces, braces_append, braces_cons] at *
    omega
  · have valueBraces := braces_scanLiteral value
    rw [literal] at valueBraces
    simp only [Token.source, Token.lostBraces, braces_append, braces_cons] at *
    omega

/-- Only pairs lose braces. -/
theorem braces_scanToken {state : State} {c : Char} {input rest : Text} {token : Token}
    (scanned : scanToken state (c :: input) = .ok (token, rest)) :
    braces (c :: input) = braces (token.source ++ rest) + token.lostBraces := by
  rcases scanToken_cons state c with ⟨mark, written, single, _, law, _⟩ | ⟨_, law⟩ | ⟨_, law⟩
  · rw [law] at scanned
    cases scanned
    rw [written, Token.lostBraces_of_runsOn single]
    rfl
  · rw [law] at scanned
    exact braces_scanPair scanned
  · rw [law] at scanned
    split at scanned
    · rename_i capture
      obtain ⟨⟨block, after⟩, found, returned⟩ := bind_eq_ok_iff.1 scanned
      cases returned
      obtain ⟨_, same⟩ := exists_of_startsWithCapture capture
      rw [(List.cons.inj same).1]
      exact braces_scanCaptureBody found
    · split at scanned
      · cases scanned
      · cases scanned
        rw [Token.source, braces_append, braces_escapeBraces]
        exact braces_scanLiteral (c :: input)

/-! ## Braces of patterns -/

/-- How many braces a pattern is written without. -/
def lostBraces : Pattern → Nat
  | .nil => 0
  | .item token rest => token.lostBraces + lostBraces rest
  | .group inner rest => lostBraces inner + lostBraces rest

theorem lostBraces_eq_zero_iff {pattern : Pattern} :
    lostBraces pattern = 0 ↔ ∀ token ∈ pattern.flatten, token.IsPrintable := by
  induction pattern with
  | nil => simp [lostBraces, Grouped.flatten]
  | item token rest inductionHypothesis =>
    rw [lostBraces, Nat.add_eq_zero_iff, Token.lostBraces_eq_zero_iff, inductionHypothesis,
      Grouped.flatten, List.forall_mem_cons]
  | group inner rest innerHypothesis inductionHypothesis =>
    rw [lostBraces, Nat.add_eq_zero_iff, innerHypothesis, inductionHypothesis, Grouped.flatten,
      List.forall_mem_append]

/-- What is read on a level was read with its own braces and those that its pairs lose. -/
theorem Reads.braces_eq {inGroup : Bool} {state final : State} {input rest : Text}
    {elements : Pattern} (reads : Reads inGroup state input elements final rest) :
    braces input = braces (elements.source ++ rest) + lostBraces elements := by
  induction reads with
  | done => rfl
  | token _ scanned _ _ _ inductionHypothesis =>
    have here := braces_scanToken scanned
    simp only [Pattern.source, lostBraces, braces_append] at here inductionHypothesis ⊢
    omega
  | group _ _ _ _ _ withinHypothesis inductionHypothesis =>
    simp only [Pattern.source, lostBraces, braces_append, braces_cons, List.cons_append]
      at withinHypothesis inductionHypothesis ⊢
    omega

/-- A pair is read from its own text if and only if no brace is in its key and its literal value. -/
theorem scanPair_source_iff {key : Text} {value : PairValue}
    (sound : (Token.pair key value).IsSound) :
    scanPair (Token.pair key value).source = .ok (.pair key value, []) ↔
      (Token.pair key value).IsPrintable := by
  constructor
  · intro scanned
    have counted := braces_scanPair scanned
    rw [List.append_nil] at counted
    rw [← Token.lostBraces_eq_zero_iff]
    omega
  · intro printable
    have nothing : (scanLiteral []).1 = [] := rfl
    have scanned := scanPair_source sound printable nothing
    rwa [List.append_nil] at scanned

end TypedRoutes.Pattern

namespace TypedRoutes

open TypedRoutes.Pattern

/-- The query pairs of an accepted text, and the pattern that it is read as, are read again from
their own texts if and only if no brace is in the key or the literal value of a pair. -/
theorem Pattern.read_source_iff {text : Text} {pattern : Pattern}
    (accepted : Pattern.read text = .ok pattern) :
    (∀ key value, Token.pair key value ∈ pattern.flatten →
        (scanPair (Token.pair key value).source = .ok (.pair key value, []) ↔
          (Token.pair key value).IsPrintable)) ∧
      (Pattern.read pattern.source = .ok pattern ↔
        ∀ token ∈ pattern.flatten, token.IsPrintable) := by
  have tokens := Pattern.tokens_isSound_of_read accepted
  refine ⟨fun key value member => scanPair_source_iff (tokens _ member), fun again => ?_,
    fun printable => ?_⟩
  · obtain ⟨_, final, reads⟩ := read_eq_ok_iff.1 again
    have counted := reads.braces_eq
    rw [List.append_nil] at counted
    rw [← lostBraces_eq_zero_iff]
    omega
  · obtain ⟨nonempty, _, reads⟩ := read_eq_ok_iff.1 accepted
    have wellFormed : pattern.IsWellFormed :=
      ⟨Pattern.exists_parts_of_read accepted, tokens, reads.isChain fun _ => rfl⟩
    obtain ⟨_, again⟩ := exists_reads_source wellFormed printable
    refine again.source_accepted ?_
    rintro rfl
    cases reads
    exact nonempty rfl

/-- The law at a pattern with a doubled brace outside its query, and one with braces in a pair. -/
theorem Pattern.read_source_iff_query :
    ∃ plain lossy, Pattern.read "/a\x7b\x7b?k={v}".toList = .ok plain ∧
      Pattern.read plain.source = .ok plain ∧
        Pattern.read "?k=\x7b\x7bv".toList = .ok lossy ∧
          Pattern.read lossy.source ≠ .ok lossy := by
  let plain : Pattern :=
    .item .slash (.item (.literal ['a', '{']) (.item .question
      (.item (.pair ['k'] (.capture ⟨.one, some ['v'], none⟩)) .nil)))
  let lossy : Pattern := .item .question (.item (.pair ['k'] (.literal ['{', 'v'])) .nil)
  have plainRead : Pattern.read "/a\x7b\x7b?k={v}".toList = .ok plain := by decide +kernel
  have lossyRead : Pattern.read "?k=\x7b\x7bv".toList = .ok lossy := by decide +kernel
  refine ⟨plain, lossy, plainRead, ?_, lossyRead, ?_⟩
  · exact (Pattern.read_source_iff plainRead).2.2 (by decide +kernel)
  · rw [ne_eq, (Pattern.read_source_iff lossyRead).2]
    decide +kernel

/-- Query pairs do not all survive being printed: the brace in a value is written once. -/
theorem Pattern.not_pairsReadAgain :
    ¬∀ text pattern, Pattern.read text = .ok pattern →
      (∀ key value, Token.pair key value ∈ pattern.flatten →
          scanPair (Token.pair key value).source = .ok (.pair key value, [])) ∧
        Pattern.read pattern.source = .ok pattern := by
  intro claimed
  let lossy : Pattern := .item .question (.item (.pair ['k'] (.literal ['{', 'v'])) .nil)
  have accepted : Pattern.read "?k=\x7b\x7bv".toList = .ok lossy := by decide +kernel
  have again := (claimed _ lossy accepted).2
  have refused : (Pattern.read lossy.source).toOption = none := by decide +kernel
  rw [again] at refused
  cases refused

end TypedRoutes
