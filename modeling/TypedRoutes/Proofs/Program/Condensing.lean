import TypedRoutes.Proofs.Program.Assembly

/-!
Contract: assembling puts fixed text together and changes nothing else.

Spelled out, fixed text is taken character by character. A pattern and its program are spelled
alike, tolerated slashes apart, which stand where a path may end. In a program fixed text is as much
in one as it can be, so that it is the only such program with its spelling.

Owns: spellings, condensed programs, and the places of tolerated slashes in a pattern.
-/

set_option autoImplicit false

namespace TypedRoutes.Program

open TypedRoutes.Pattern TypedRoutes.Matching

/-! ## Spellings -/

/-- What a spelled sequence is made of, groups apart. -/
inductive Symbol where
  | character (c : Char)
  | capture (block : Capture)
  | stop
deriving DecidableEq, Repr

def characters (text : Text) : List Symbol :=
  text.map .character

def symbolsOf : Piece → List Symbol
  | .fixed text => characters text
  | .capture ahead block => characters ahead ++ [.capture block]
  | .stop => [.stop]

def prepend {α : Type} (items : List α) (rest : Grouped α) : Grouped α :=
  items.foldr .item rest

/-- A sequence spelled out, with its groups where they are. -/
def spell {α : Type} (piece : α → Piece) : Grouped α → Grouped Symbol
  | .nil => .nil
  | .item head rest => prepend (symbolsOf (piece head)) (spell piece rest)
  | .group inner rest => .group (spell piece inner) (spell piece rest)

theorem prepend_append {α : Type} (first second : List α) (rest : Grouped α) :
    prepend (first ++ second) rest = prepend first (prepend second rest) :=
  List.foldr_append

@[simp] theorem characters_append (first second : Text) :
    characters (first ++ second) = characters first ++ characters second :=
  List.map_append

theorem spell_flush (run : Option Text) (program : Program) :
    spell pieceOf (flush run program) =
      prepend (characters (run.getD [])) (spell pieceOf program) := by
  cases run <;> rfl

theorem spell_optionalSlash (program : Program) :
    spell pieceOf (optionalSlash program) =
      .group (.item (.character '/') .nil) (spell pieceOf program) := rfl

/-- A program without tolerated slashes is spelled like its pattern, behind its run. -/
theorem spell_assemble (marked : Bool) (run : Option Text) (pattern : Pattern) :
    spell pieceOf (assemble false marked run pattern) =
      prepend (characters (run.getD [])) (spell tokenPiece pattern) := by
  induction pattern generalizing marked run with
  | nil => exact spell_flush run .nil
  | item token rest inductionHypothesis =>
    cases is : tokenPiece token with
    | fixed fixed =>
      obtain ⟨next, ⟨goesOn, _⟩, ⟨later, same⟩ | ⟨slashed, _⟩⟩ :=
        exists_assemble_of_fixed is false marked run rest
      · rw [same, inductionHypothesis, goesOn, characters_append, prepend_append, spell, is]
        rfl
      · cases slashed
    | capture ahead block =>
      obtain ⟨next, ⟨goesOn, _⟩, same⟩ := exists_assemble_of_capture is false marked run rest
      rw [same, spell_flush, goesOn, characters_append, prepend_append, spell, spell, is,
        inductionHypothesis, symbolsOf, prepend_append]
      rfl
    | stop =>
      obtain rfl := eq_stop_of_tokenPiece is
      rw [assemble, spell_flush, spell, inductionHypothesis]
      rfl
  | group inner rest innerHypothesis inductionHypothesis =>
    rw [assemble, spell_flush]
    simp only [Bool.false_and, Bool.false_eq_true, if_false, spell, innerHypothesis,
      inductionHypothesis]
    rfl

/-! ## Tolerated slashes -/

/-- Whether the query or the fragment has begun with some tokens. -/
def hasMark (tokens : List Token) : Bool :=
  tokens.any fun token => token = .question || token = .hash

@[simp] theorem hasMark_append (first second : List Token) :
    hasMark (first ++ second) = (hasMark first || hasMark second) :=
  List.any_append

/-- Whether a slash is tolerated right behind an element, by the tokens before it and by what is
behind it at the top: a literal behind which the path ends, or a group that is last. -/
def isSlashPlace (before : List Token) (element : Element Token) (after : Pattern) : Bool :=
  match element with
  | .item (.literal _) => !hasMark before && endsPath after
  | .item _ => false
  | .group _ => after.isEmpty

/-- What is behind an element, with an optional slash in front of it where one is tolerated. -/
def offerSlash (isPlace : Bool) (after : Pattern) : Pattern :=
  if isPlace then .group (.item .slash .nil) after else after

/-- What is behind some tokens of a pattern, with all optional slashes that are tolerated there. -/
def withSlashes (before : List Token) : Pattern → Pattern
  | .nil => .nil
  | .item token rest =>
    .item token
      (offerSlash (isSlashPlace before (.item token) rest) (withSlashes (before ++ [token]) rest))
  | .group inner rest =>
    .group inner (offerSlash (isSlashPlace before (.group inner) rest) (withSlashes before rest))

/-- A token of fixed text goes into the run. Where a slash is tolerated behind it, the run ends. -/
theorem exists_assemble_tolerant_of_fixed {token : Token} {fixed : Text}
    (is : tokenPiece token = .fixed fixed) (before : List Token) (run : Option Text)
    (rest : Pattern) :
    ∃ next, GoesOn run fixed next ∧
      assemble true (hasMark before) run (.item token rest) =
        if isSlashPlace before (.item token) rest then
          flush next (optionalSlash (assemble true (hasMark (before ++ [token])) none rest))
        else assemble true (hasMark (before ++ [token])) next rest := by
  cases token with
  | slash | ampersand | question | hash =>
    cases is
    exact ⟨_, goesOn_extend run _, by simp [assemble, isSlashPlace, hasMark]⟩
  | literal text =>
    cases is
    exact ⟨_, goesOn_extend run _, by simp [assemble, isSlashPlace, hasMark]⟩
  | fixed text =>
    cases is
    exact ⟨run, goesOn_nil run, by simp [assemble, isSlashPlace, hasMark]⟩
  | pair key value =>
    cases value with
    | literal text =>
      cases is
      exact ⟨_, goesOn_extend run _, by simp [assemble, isSlashPlace, hasMark]⟩
    | capture block => cases is
  | capture block => cases is
  | stop => cases is

/-- No slash is tolerated behind a capture, which begins neither query nor fragment. -/
theorem unmarked_of_tokenPiece {token : Token} {ahead : Text} {block : Capture}
    (is : tokenPiece token = .capture ahead block) (before : List Token) (rest : Pattern) :
    hasMark (before ++ [token]) = hasMark before ∧
      isSlashPlace before (.item token) rest = false := by
  cases token with
  | capture other => simp [hasMark, isSlashPlace]
  | pair key value => simp [hasMark, isSlashPlace]
  | _ => cases is

/-- A program with tolerated slashes is spelled like its pattern with these slashes, behind its
run. -/
theorem spell_assemble_tolerant (before : List Token) (run : Option Text) (pattern : Pattern) :
    spell pieceOf (assemble true (hasMark before) run pattern) =
      prepend (characters (run.getD [])) (spell tokenPiece (withSlashes before pattern)) := by
  induction pattern generalizing before run with
  | nil => exact spell_flush run .nil
  | item token rest inductionHypothesis =>
    rw [withSlashes, spell]
    cases is : tokenPiece token with
    | fixed fixed =>
      obtain ⟨next, ⟨goesOn, _⟩, same⟩ := exists_assemble_tolerant_of_fixed is before run rest
      rw [same]
      cases isSlashPlace before (.item token) rest with
      | true =>
        simp only [if_true, spell_flush, spell_optionalSlash, inductionHypothesis, goesOn,
          characters_append, prepend_append]
        rfl
      | false =>
        simp only [Bool.false_eq_true, if_false, inductionHypothesis, goesOn, characters_append,
          prepend_append]
        rfl
    | capture ahead block =>
      obtain ⟨unmarked, noPlace⟩ := unmarked_of_tokenPiece is before rest
      obtain ⟨next, ⟨goesOn, _⟩, same⟩ :=
        exists_assemble_of_capture is true (hasMark before) run rest
      rw [same, spell_flush, spell, ← unmarked, inductionHypothesis, noPlace, goesOn,
        characters_append, prepend_append, symbolsOf, prepend_append]
      rfl
    | stop =>
      obtain rfl := eq_stop_of_tokenPiece is
      have unmarked : hasMark (before ++ [.stop]) = hasMark before := by simp [hasMark]
      rw [assemble, spell_flush, spell, ← unmarked, inductionHypothesis]
      rfl
  | group inner rest _ inductionHypothesis =>
    have within := spell_assemble false none inner
    have later := inductionHypothesis before none
    rw [assemble, spell_flush, withSlashes, spell, spell, within]
    unfold isSlashPlace
    cases rest.isEmpty with
    | true => simp only [Bool.and_self, if_true, spell_optionalSlash, later]; rfl
    | false => simp only [Bool.and_false, Bool.false_eq_true, if_false, later]; rfl

/-! ## Condensed programs -/

def startsWithFixed : Program → Bool
  | .item (.fixed _) _ => true
  | _ => false

/-- A program in which at every level no fixed text is empty and no two come next to each other. -/
def IsCondensed : Program → Prop
  | .nil => True
  | .item (.fixed text) rest => text ≠ [] ∧ startsWithFixed rest = false ∧ IsCondensed rest
  | .item _ rest => IsCondensed rest
  | .group inner rest => IsCondensed inner ∧ IsCondensed rest

def IsFull (run : Option Text) : Prop :=
  ∀ text ∈ run, text ≠ []

/-- A program stays condensed behind a run of fixed text, if it does not begin with such text. -/
theorem isCondensed_flush {run : Option Text} {program : Program} (full : IsFull run)
    (bare : startsWithFixed program = false) (condensed : IsCondensed program) :
    IsCondensed (flush run program) := by
  cases run with
  | none => exact condensed
  | some text => exact ⟨full text rfl, bare, condensed⟩

theorem isCondensed_optionalSlash {program : Program} (condensed : IsCondensed program) :
    IsCondensed (optionalSlash program) :=
  ⟨⟨List.cons_ne_nil _ _, rfl, trivial⟩, condensed⟩

def HasText (pattern : Pattern) : Prop :=
  .literal [] ∉ pattern.flatten

instance (pattern : Pattern) : Decidable (HasText pattern) :=
  inferInstanceAs (Decidable (_ ∉ pattern.flatten))

theorem isFull_extend {run : Option Text} {text : Text} (some : text ≠ []) :
    IsFull (extend run text) := by
  rintro _ ⟨⟩
  exact List.append_ne_nil_of_right_ne_nil _ some

/-- Programs of patterns without empty literals are condensed. -/
theorem isCondensed_assemble {slash marked : Bool} {run : Option Text} {pattern : Pattern}
    (texts : HasText pattern) (full : IsFull run) :
    IsCondensed (assemble slash marked run pattern) := by
  have nothing : IsFull none := nofun
  induction pattern generalizing slash marked run with
  | nil => exact isCondensed_flush full rfl trivial
  | item token rest inductionHypothesis =>
    have more : HasText rest := fun empty => texts (List.mem_cons_of_mem _ empty)
    cases token with
    | slash | ampersand | question | hash =>
      exact inductionHypothesis more (isFull_extend (List.cons_ne_nil _ _))
    | literal text =>
      have some : text ≠ [] := by
        rintro rfl
        exact texts List.mem_cons_self
      rw [assemble]
      split
      · exact isCondensed_flush (isFull_extend some) rfl
          (isCondensed_optionalSlash (inductionHypothesis more nothing))
      · exact inductionHypothesis more (isFull_extend some)
    | capture block => exact isCondensed_flush full rfl (inductionHypothesis more nothing)
    | stop => exact isCondensed_flush full rfl (inductionHypothesis more nothing)
    | fixed text => exact inductionHypothesis more full
    | pair key value =>
      have some (ending : Text) : key ++ '=' :: ending ≠ [] := by simp
      cases value with
      | literal text => exact inductionHypothesis more (isFull_extend (some text))
      | capture block =>
        exact isCondensed_flush (isFull_extend (some [])) rfl (inductionHypothesis more nothing)
  | group inner rest innerHypothesis inductionHypothesis =>
    have innerTexts : HasText inner := fun empty => texts (List.mem_append_left _ empty)
    have more : HasText rest := fun empty => texts (List.mem_append_right _ empty)
    have within : IsCondensed (assemble false false none inner) :=
      innerHypothesis innerTexts nothing
    have later : IsCondensed (assemble slash marked none rest) := inductionHypothesis more nothing
    rw [assemble]
    refine isCondensed_flush full rfl ⟨within, ?_⟩
    split
    · exact isCondensed_optionalSlash later
    · exact later

/-! ## Condensed programs have spellings of their own -/

def startsWithCharacter : Grouped Symbol → Bool
  | .item (.character _) _ => true
  | _ => false

/-- In a condensed program fixed text is what is spelled with characters. -/
theorem IsCondensed.startsWithCharacter_spell {program : Program}
    (condensed : IsCondensed program) :
    startsWithCharacter (spell pieceOf program) = startsWithFixed program := by
  cases program with
  | nil => rfl
  | group inner rest => rfl
  | item instruction rest =>
    cases instruction with
    | fixed text =>
      obtain ⟨c, more, rfl⟩ := List.exists_cons_of_ne_nil condensed.1
      rfl
    | capture block => rfl
    | stop => rfl

/-- Where the characters in front of a spelling end tells what they are. -/
theorem prepend_characters_inj {first second : Text} {rest other : Grouped Symbol}
    (bare : startsWithCharacter rest = false) (otherBare : startsWithCharacter other = false)
    (same : prepend (characters first) rest = prepend (characters second) other) :
    first = second ∧ rest = other := by
  induction first generalizing second with
  | nil =>
    cases second with
    | nil => exact ⟨rfl, same⟩
    | cons c more =>
      obtain rfl : rest = .item (.character c) (prepend (characters more) other) := same
      cases bare
  | cons c more inductionHypothesis =>
    cases second with
    | nil =>
      obtain rfl : .item (.character c) (prepend (characters more) rest) = other := same
      cases otherBare
    | cons d others =>
      injection same with sameFirst sameRest
      injection sameFirst with sameCharacter
      obtain ⟨rfl, rfl⟩ := inductionHypothesis sameRest
      exact ⟨by rw [sameCharacter], rfl⟩

/-- Condensed programs that are spelled alike are the same. -/
theorem IsCondensed.eq_of_spell_eq {first second : Program} (condensed : IsCondensed first)
    (otherCondensed : IsCondensed second) (same : spell pieceOf first = spell pieceOf second) :
    first = second := by
  induction first generalizing second with
  | nil =>
    have alike := condensed.startsWithCharacter_spell
    rw [same, otherCondensed.startsWithCharacter_spell] at alike
    cases second with
    | nil => rfl
    | group => cases same
    | item instruction others =>
      cases instruction with
      | fixed => cases alike
      | capture | stop => cases same
  | item instruction rest inductionHypothesis =>
    have alike := condensed.startsWithCharacter_spell
    rw [same, otherCondensed.startsWithCharacter_spell] at alike
    cases second with
    | nil =>
      cases instruction with
      | fixed => cases alike
      | capture | stop => cases same
    | group =>
      cases instruction with
      | fixed => cases alike
      | capture | stop => cases same
    | item other others =>
      cases instruction with
      | fixed text =>
        cases other with
        | capture | stop => cases alike
        | fixed otherText =>
          have bare := condensed.2.2.startsWithCharacter_spell
          have otherBare := otherCondensed.2.2.startsWithCharacter_spell
          rw [condensed.2.1] at bare
          rw [otherCondensed.2.1] at otherBare
          obtain ⟨rfl, sameRest⟩ := prepend_characters_inj bare otherBare same
          rw [inductionHypothesis condensed.2.2 otherCondensed.2.2 sameRest]
      | capture block =>
        cases other with
        | fixed => cases alike
        | stop => cases same
        | capture =>
          have othersCondensed : IsCondensed others := otherCondensed
          injection same with sameFirst sameRest
          injection sameFirst with sameBlock
          rw [sameBlock, inductionHypothesis condensed othersCondensed sameRest]
      | stop =>
        cases other with
        | fixed => cases alike
        | capture => cases same
        | stop =>
          have othersCondensed : IsCondensed others := otherCondensed
          injection same with _ sameRest
          rw [inductionHypothesis condensed othersCondensed sameRest]
  | group inner rest innerHypothesis inductionHypothesis =>
    have alike := condensed.startsWithCharacter_spell
    rw [same, otherCondensed.startsWithCharacter_spell] at alike
    cases second with
    | nil => cases same
    | item instruction others =>
      cases instruction with
      | fixed => cases alike
      | capture | stop => cases same
    | group otherInner others =>
      injection same with sameInner sameRest
      rw [innerHypothesis condensed.1 otherCondensed.1 sameInner,
        inductionHypothesis condensed.2 otherCondensed.2 sameRest]

/-! ## The program of a pattern -/

/-- Assembling keeps what a pattern is spelled with and is canonical. For every pattern without
empty literals, whatever its order and nesting: its program is spelled like it; with or without
tolerated slashes the program is condensed; a pattern that is spelled alike has the same program;
and a program with tolerated slashes is spelled like the pattern with an optional slash in each
place that there is for one, none of them inside a group. -/
theorem ofPattern_isCanonical {pattern : Pattern} (texts : HasText pattern) :
    spell pieceOf (ofPattern false pattern) = spell tokenPiece pattern ∧
      (∀ slash, IsCondensed (ofPattern slash pattern)) ∧
        (∀ other, HasText other → spell tokenPiece other = spell tokenPiece pattern →
          ofPattern false other = ofPattern false pattern) ∧
          spell pieceOf (ofPattern true pattern) =
            spell tokenPiece (withSlashes [] pattern) := by
  have condensed {other : Pattern} (slash : Bool) (texts : HasText other) :
      IsCondensed (ofPattern slash other) :=
    isCondensed_assemble texts nofun
  have spelled (other : Pattern) : spell pieceOf (ofPattern false other) = spell tokenPiece other :=
    spell_assemble false none other
  refine ⟨spelled pattern, fun slash => condensed slash texts, ?_,
    spell_assemble_tolerant [] none pattern⟩
  intro other otherTexts alike
  refine (condensed false otherTexts).eq_of_spell_eq (condensed false texts) ?_
  rw [spelled, spelled, alike]

/-- The law at a pattern in no order a text could give it, and one that splits its fixed text
elsewhere. -/
theorem ofPattern_isCanonical_split :
    let pattern : Pattern :=
      .item .stop (.item (.literal ['a']) (.item .slash (.group (.item .hash .nil)
        (.item (.literal ['b']) (.item .question (.item (.pair ['k'] (.literal ['v'])) .nil))))))
    let other : Pattern :=
      .item .stop (.item (.literal ['a', '/']) (.group (.item (.literal ['#']) .nil)
        (.item (.literal "b?k=v".toList) .nil)))
    HasText pattern ∧ HasText other ∧
      ofPattern false other = ofPattern false pattern ∧
        spell pieceOf (ofPattern true pattern) = spell tokenPiece (withSlashes [] pattern) := by
  intro pattern other
  have texts : HasText pattern := by decide
  have otherTexts : HasText other := by decide
  obtain ⟨_, _, canonical, tolerant⟩ := ofPattern_isCanonical texts
  exact ⟨texts, otherTexts, canonical other otherTexts (by decide), tolerant⟩

end TypedRoutes.Program
