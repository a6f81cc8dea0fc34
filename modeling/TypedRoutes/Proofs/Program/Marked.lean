import TypedRoutes.Proofs.Pattern.Soundness
import TypedRoutes.Proofs.Program.Condensing
import TypedRoutes.Proofs.Program.Tolerance

/-!
Contract: the tolerated slash that can stand behind a mark.

Behind the first mark of a query or a fragment no slash is tolerated behind a literal. A group that
is last has one behind it wherever it stands, so a pattern whose fragment ends in a group has one
there. From the mark on, the two programs of a pattern differ in this slash and in nothing else.

Owns: spellings from their first mark on, and how those of both programs differ.
-/

set_option autoImplicit false

namespace TypedRoutes.Program

open TypedRoutes.Text TypedRoutes.Pattern TypedRoutes.Matching

/-! ## Spellings from a mark on -/

/-- Whether a symbol is the mark of a query or of a fragment. -/
def Symbol.isMark : Symbol → Bool
  | .character c => c = '?' || c = '#'
  | _ => false

/-- What is spelled from the first mark at the top on. -/
def fromMark : Grouped Symbol → Grouped Symbol
  | .nil => .nil
  | .item symbol rest => if symbol.isMark then .item symbol rest else fromMark rest
  | .group _ rest => fromMark rest

theorem fromMark_prepend {symbols : List Symbol} (rest : Grouped Symbol)
    (unmarked : ∀ symbol ∈ symbols, symbol.isMark = false) :
    fromMark (prepend symbols rest) = fromMark rest := by
  induction symbols with
  | nil => rfl
  | cons symbol others inductionHypothesis =>
    obtain ⟨plain, later⟩ := List.forall_mem_cons.1 unmarked
    show fromMark (.item symbol (prepend others rest)) = fromMark rest
    rw [fromMark, plain, if_neg Bool.false_ne_true, inductionHypothesis later]

theorem append_prepend {α : Type} (items : List α) (first second : Grouped α) :
    prepend items first ++ second = prepend items (first ++ second) := by
  induction items with
  | nil => rfl
  | cons head rest inductionHypothesis =>
    exact congrArg (Grouped.item head) inductionHypothesis

theorem spell_append {α : Type} (piece : α → Piece) (first second : Grouped α) :
    spell piece (first ++ second) = spell piece first ++ spell piece second := by
  induction first with
  | nil => rfl
  | item head rest inductionHypothesis =>
    rw [Grouped.item_append, spell, spell, inductionHypothesis, append_prepend]
  | group inner rest _ inductionHypothesis =>
    rw [Grouped.group_append, spell, spell, inductionHypothesis, Grouped.group_append]

theorem append_eq_self_iff {α : Type} {first second : Grouped α} :
    first ++ second = first ↔ second = .nil := by
  constructor
  · intro same
    have elements := congrArg Grouped.elements same
    rw [Grouped.elements_append, List.append_right_eq_self] at elements
    rw [← Grouped.ofElements_elements second, elements]
    rfl
  · rintro rfl
    exact Grouped.append_nil first

theorem isMark_of_isPlain {text : Text} (plain : ∀ c ∈ text, isBarred c = false) :
    ∀ symbol ∈ characters text, symbol.isMark = false := by
  intro symbol member
  obtain ⟨c, inside, rfl⟩ := List.mem_map.1 member
  have free := plain c inside
  simp only [isBarred, List.contains_eq_mem, List.mem_cons, List.not_mem_nil, or_false,
    decide_eq_false_iff_not, not_or] at free
  simp [Symbol.isMark, free]

/-- No token but the marks themselves is spelled with one. -/
theorem isMark_of_isSound {token : Token} (sound : token.IsSound)
    (unmarked : startsWithMark (.item token .nil) = false) :
    ∀ symbol ∈ symbolsOf (tokenPiece token), symbol.isMark = false := by
  cases token with
  | slash | ampersand | stop | capture => simp [tokenPiece, symbolsOf, characters, Symbol.isMark]
  | question | hash => cases unmarked
  | literal text => exact isMark_of_isPlain sound.2
  | fixed => cases sound
  | pair key value =>
    cases value with
    | literal text =>
      show ∀ symbol ∈ characters (key ++ '=' :: text), symbol.isMark = false
      rw [characters_append]
      refine List.forall_mem_append.2 ⟨isMark_of_isPlain sound.1.2, ?_⟩
      exact List.forall_mem_cons.2 ⟨rfl, isMark_of_isPlain sound.2.2⟩
    | capture block =>
      show ∀ symbol ∈ characters (key ++ ['=']) ++ [.capture block], symbol.isMark = false
      rw [characters_append, List.append_assoc]
      refine List.forall_mem_append.2 ⟨isMark_of_isPlain sound.1.2, ?_⟩
      simp [characters, Symbol.isMark]

theorem hasMark_singleton (token : Token) :
    hasMark [token] = startsWithMark (.item token .nil) := by
  cases token <;> rfl

/-! ## Slashes behind a mark -/

/-- The optional slash that is tolerated behind a group which ends a pattern. -/
def lastSlash (pattern : Pattern) : Pattern :=
  offerSlash (isGroup pattern.elements.getLast?) .nil

theorem lastSlash_item (token : Token) (rest : Pattern) :
    lastSlash (.item token rest) = lastSlash rest := by
  unfold lastSlash
  rw [Grouped.elements, List.getLast?_cons]
  cases rest.elements.getLast? <;> rfl

theorem lastSlash_group (inner rest : Pattern) :
    lastSlash (.group inner rest) =
      if rest.isEmpty then .group (.item .slash .nil) .nil else lastSlash rest := by
  unfold lastSlash
  cases rest with
  | nil => rfl
  | item | group =>
    simp only [Grouped.elements, List.getLast?_cons_cons]
    rfl

/-- Behind a mark only a group that is last has a slash behind it. -/
theorem withSlashes_of_hasMark {before : List Token} {pattern : Pattern}
    (marked : hasMark before = true) :
    withSlashes before pattern = pattern ++ lastSlash pattern := by
  induction pattern generalizing before with
  | nil => rfl
  | item token rest inductionHypothesis =>
    have later : hasMark (before ++ [token]) = true := by simp [marked]
    have noPlace : isSlashPlace before (.item token) rest = false := by
      cases token <;> simp [isSlashPlace, marked]
    rw [withSlashes, noPlace, inductionHypothesis later, lastSlash_item]
    rfl
  | group inner rest _ inductionHypothesis =>
    rw [withSlashes, inductionHypothesis marked, lastSlash_group]
    cases rest <;> rfl

/-- A slash before the first mark changes nothing from the mark on. -/
theorem fromMark_offerSlash (isPlace : Bool) (after : Pattern) :
    fromMark (spell tokenPiece (offerSlash isPlace after)) = fromMark (spell tokenPiece after) := by
  cases isPlace <;> rfl

/-- From its first mark on, a pattern with tolerated slashes has one more slash than without them
if it ends in a group, and is the same otherwise. -/
theorem fromMark_withSlashes {before : List Token} {pattern : Pattern}
    (unmarked : hasMark before = false) (sound : ∀ token ∈ pattern.flatten, token.IsSound) :
    fromMark (spell tokenPiece (withSlashes before pattern)) =
      fromMark (spell tokenPiece pattern) ++
        if hasMark pattern.topItems then spell tokenPiece (lastSlash pattern) else .nil := by
  induction pattern generalizing before with
  | nil => rfl
  | item token rest inductionHypothesis =>
    obtain ⟨own, others⟩ := List.forall_mem_cons.1 sound
    have split : hasMark (Grouped.topItems (.item token rest)) =
        (hasMark [token] || hasMark rest.topItems) :=
      hasMark_append [token] rest.topItems
    by_cases marks : startsWithMark (.item token .nil) = true
    · rw [hasMark_singleton, marks, Bool.true_or] at split
      have begun : hasMark (before ++ [token]) = true := by
        rw [hasMark_append, hasMark_singleton, marks, Bool.or_true]
      rw [withSlashes, withSlashes_of_hasMark begun, lastSlash_item, split, if_pos rfl]
      cases token with
      | question | hash =>
        show Grouped.item _ (spell tokenPiece (rest ++ lastSlash rest)) = _
        rw [spell_append]
        rfl
      | _ => cases marks
    · have plain := Bool.eq_false_iff.2 marks
      rw [hasMark_singleton, plain, Bool.false_or] at split
      have still : hasMark (before ++ [token]) = false := by
        rw [hasMark_append, hasMark_singleton, plain, unmarked, Bool.or_false]
      rw [withSlashes, spell, spell, fromMark_prepend _ (isMark_of_isSound own plain),
        fromMark_prepend _ (isMark_of_isSound own plain), fromMark_offerSlash,
        inductionHypothesis still others, split, lastSlash_item]
  | group inner rest _ inductionHypothesis =>
    obtain ⟨_, others⟩ := List.forall_mem_append.1 sound
    rw [withSlashes, spell, spell, fromMark, fromMark, fromMark_offerSlash,
      inductionHypothesis unmarked others, lastSlash_group, Grouped.topItems]
    cases rest <;> rfl

/-! ## Both programs -/

/-- From the first mark on, the program with tolerated slashes is spelled as the one without them,
with the slash behind a last group at its end. -/
theorem fromMark_ofPattern {pattern : Pattern} (sound : ∀ token ∈ pattern.flatten, token.IsSound) :
    fromMark (spell pieceOf (ofPattern true pattern)) =
      fromMark (spell pieceOf (ofPattern false pattern)) ++
        if hasMark pattern.topItems then spell tokenPiece (lastSlash pattern) else .nil := by
  have tolerant : spell pieceOf (ofPattern true pattern) =
      spell tokenPiece (withSlashes [] pattern) :=
    spell_assemble_tolerant [] none pattern
  have strict : spell pieceOf (ofPattern false pattern) = spell tokenPiece pattern :=
    spell_assemble false none pattern
  rw [tolerant, strict]
  exact fromMark_withSlashes rfl sound

/-- From the first mark of its query or fragment on, both programs of a pattern are spelled alike,
unless it has a mark and ends in a group. -/
theorem fromMark_eq_iff {text : Text} {pattern : Pattern}
    (accepted : Pattern.read text = .ok pattern) :
    fromMark (spell pieceOf (ofPattern true pattern)) =
        fromMark (spell pieceOf (ofPattern false pattern)) ↔
      ¬ (hasMark pattern.topItems = true ∧ isGroup pattern.elements.getLast? = true) := by
  rw [fromMark_ofPattern (Pattern.tokens_isSound_of_read accepted), append_eq_self_iff, lastSlash]
  cases hasMark pattern.topItems with
  | false => simp
  | true =>
    cases isGroup pattern.elements.getLast? with
    | false | true => simp [offerSlash, spell]

/-- The law at a pattern with a group before its query and a literal at its end. -/
theorem fromMark_eq_search :
    ∃ pattern, Pattern.read "/a(b)?c=d#e".toList = .ok pattern ∧
      fromMark (spell pieceOf (ofPattern true pattern)) =
        fromMark (spell pieceOf (ofPattern false pattern)) := by
  let pattern : Pattern :=
    .item .slash (.item (.literal ['a']) (.group (.item (.literal ['b']) .nil)
      (.item .question (.item (.pair ['c'] (.literal ['d']))
        (.item .hash (.item (.literal ['e']) .nil))))))
  have accepted : Pattern.read "/a(b)?c=d#e".toList = .ok pattern := by
    decide +kernel
  exact ⟨pattern, accepted, (fromMark_eq_iff accepted).2 (by decide)⟩

/-- A group that ends the fragment has a tolerated slash behind it. -/
theorem fromMark_ne_fragment :
    ∃ pattern, Pattern.read "#(b)".toList = .ok pattern ∧
      fromMark (spell pieceOf (ofPattern true pattern)) ≠
        fromMark (spell pieceOf (ofPattern false pattern)) := by
  let pattern : Pattern := .item .hash (.group (.item (.literal ['b']) .nil) .nil)
  have accepted : Pattern.read "#(b)".toList = .ok pattern := by
    decide +kernel
  exact ⟨pattern, accepted, by decide⟩

end TypedRoutes.Program
