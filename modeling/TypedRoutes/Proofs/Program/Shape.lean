import TypedRoutes.Program.Stops
import TypedRoutes.Proofs.Matching.Cutting
import TypedRoutes.Proofs.Pattern.Levels
import TypedRoutes.Proofs.Pattern.Soundness
import TypedRoutes.Proofs.Program.Condensing

/-!
Contract: the shape of programs that running them relies on.

Each level of a program is assembled from a level of its pattern, tolerated slashes apart, and is
spelled like it. So what the grammar says about neighbours in a pattern comes back as a rule for the
program: between captures of one level there is fixed text, and a capture is open just where no such
text is left.

Owns: the place of the stop in a program, levels spelled, and the shape of programs.
-/

set_option autoImplicit false

namespace TypedRoutes.Program

open TypedRoutes.Pattern TypedRoutes.Matching TypedRoutes.Table

/-! ## The stop -/

/-- Whether nothing at all comes behind a stop at the top. -/
def StopsLast {α : Type} (piece : α → Piece) : Grouped α → Prop
  | .nil => True
  | .item head rest => (piece head = .stop → rest = .nil) ∧ StopsLast piece rest
  | .group _ rest => StopsLast piece rest

theorem stopsLast_append {first second : Pattern}
    (unstopped : ∀ token ∈ first.topItems, token ≠ .stop) (later : StopsLast tokenPiece second) :
    StopsLast tokenPiece (first ++ second) := by
  induction first with
  | nil => exact later
  | item token rest inductionHypothesis =>
    obtain ⟨unlike, others⟩ := List.forall_mem_cons.1 unstopped
    exact ⟨fun is => absurd (eq_stop_of_tokenPiece is) unlike, inductionHypothesis others⟩
  | group inner rest _ inductionHypothesis => exact inductionHypothesis unstopped

theorem stopsLast_pattern {parts : Parts} (sound : parts.AreSound) :
    StopsLast tokenPiece parts.pattern := by
  have ended : StopsLast tokenPiece parts.ending := by
    unfold Parts.ending
    cases parts.isStopped
    · trivial
    · exact ⟨fun _ => rfl, trivial⟩
  have behind : StopsLast tokenPiece parts.afterQuery := by
    unfold Parts.afterQuery
    cases found : parts.fragment with
    | none => exact ended
    | some body => exact ⟨nofun, stopsLast_append (sound.fragment body found).ne_stop ended⟩
  refine stopsLast_append sound.path.ne_stop (stopsLast_append (fun token member => ?_) behind)
  exact (queryFrom_topItems .question parts.isOpen parts.pairs ⟨rfl, nofun⟩ token member).2

theorem stopsLast_flush (run : Option Text) {program : Program} (last : StopsLast pieceOf program) :
    StopsLast pieceOf (flush run program) := by
  cases run with
  | none => exact last
  | some text => exact ⟨nofun, last⟩

theorem stopsLast_assemble {slash marked : Bool} {run : Option Text} {pattern : Pattern}
    (last : StopsLast tokenPiece pattern) :
    StopsLast pieceOf (assemble slash marked run pattern) := by
  induction pattern generalizing marked run with
  | nil => exact stopsLast_flush run trivial
  | item token rest inductionHypothesis =>
    cases is : tokenPiece token with
    | fixed fixed =>
      obtain ⟨next, _, ⟨later, same⟩ | ⟨_, _, same⟩⟩ :=
        exists_assemble_of_fixed is slash marked run rest
      · rw [same]
        exact inductionHypothesis last.2
      · rw [same]
        exact stopsLast_flush next (inductionHypothesis last.2)
    | capture ahead block =>
      obtain ⟨next, _, same⟩ := exists_assemble_of_capture is slash marked run rest
      rw [same]
      exact stopsLast_flush next ⟨nofun, inductionHypothesis last.2⟩
    | stop =>
      obtain rfl := eq_stop_of_tokenPiece is
      obtain rfl := last.1 rfl
      exact stopsLast_flush run ⟨fun _ => rfl, trivial⟩
  | group inner rest _ inductionHypothesis =>
    rw [assemble]
    refine stopsLast_flush run ?_
    split
    · exact inductionHypothesis last
    · exact inductionHypothesis last

theorem StopsLast.right_of_append {front rest : Program}
    (last : StopsLast pieceOf (front ++ rest)) :
    StopsLast pieceOf rest := by
  induction front with
  | nil => exact last
  | item head others inductionHypothesis => exact inductionHypothesis last.2
  | group inner others _ inductionHypothesis => exact inductionHypothesis last

theorem count_stop_le_one {program : Program} (last : StopsLast pieceOf program)
    (outside : .stop ∉ groupItems program) :
    program.flatten.count .stop ≤ 1 := by
  induction program with
  | nil => exact Nat.zero_le 1
  | item instruction rest inductionHypothesis =>
    cases instruction with
    | stop =>
      obtain rfl := last.1 rfl
      exact Nat.le_refl 1
    | fixed | capture =>
      rw [Grouped.flatten, List.count_cons_of_ne (by simp)]
      exact inductionHypothesis last.2 outside
  | group inner rest _ inductionHypothesis =>
    have inside : .stop ∉ inner.flatten := fun member => outside (List.mem_append_left _ member)
    have later : .stop ∉ groupItems rest := fun member => outside (List.mem_append_right _ member)
    rw [Grouped.flatten, List.count_append, List.count_eq_zero.2 inside, Nat.zero_add]
    exact inductionHypothesis last later

/-! ## Levels, spelled -/

theorem topItems_prepend {α : Type} (items : List α) (rest : Grouped α) :
    (prepend items rest).topItems = items ++ rest.topItems := by
  induction items with
  | nil => rfl
  | cons head others inductionHypothesis =>
    exact congrArg (List.cons head) inductionHypothesis

theorem topItems_spell {α : Type} (piece : α → Piece) (sequence : Grouped α) :
    (spell piece sequence).topItems = sequence.topItems.flatMap (symbolsOf ∘ piece) := by
  induction sequence with
  | nil => rfl
  | item head rest inductionHypothesis =>
    rw [spell, topItems_prepend, inductionHypothesis]
    rfl
  | group inner rest _ inductionHypothesis => exact inductionHypothesis

theorem topItems_withSlashes (before : List Token) (pattern : Pattern) :
    (withSlashes before pattern).topItems = pattern.topItems := by
  have offered (isPlace : Bool) (after : Pattern) :
      (offerSlash isPlace after).topItems = after.topItems := by
    cases isPlace <;> rfl
  induction pattern generalizing before with
  | nil => rfl
  | item token rest inductionHypothesis =>
    rw [withSlashes, Grouped.topItems, offered, inductionHypothesis]
    rfl
  | group inner rest _ inductionHypothesis =>
    rw [withSlashes, Grouped.topItems, offered, inductionHypothesis]
    rfl

/-- At the top a program is spelled like its pattern, with or without tolerated slashes. -/
theorem topItems_spell_ofPattern (slash : Bool) (pattern : Pattern) :
    (spell pieceOf (ofPattern slash pattern)).topItems = (spell tokenPiece pattern).topItems := by
  cases slash with
  | false => exact congrArg Grouped.topItems (spell_assemble false none pattern)
  | true =>
    have same : spell pieceOf (ofPattern true pattern) =
        spell tokenPiece (withSlashes [] pattern) := spell_assemble_tolerant [] none pattern
    rw [same, topItems_spell, topItems_withSlashes, topItems_spell]

theorem insides_flush (run : Option Text) (program : Program) :
    (flush run program).insides = program.insides := by
  cases run <;> rfl

/-- What is in the groups of a program are the programs of what is in the groups of its pattern, and
tolerated slashes. -/
theorem exists_of_mem_insides_assemble {slash marked : Bool} {run : Option Text} {pattern : Pattern}
    {inner : Program} (inside : inner ∈ (assemble slash marked run pattern).insides) :
    inner = .item (.fixed ['/']) .nil ∨
      ∃ level ∈ pattern.insides, inner = ofPattern false level := by
  induction pattern generalizing slash marked run with
  | nil =>
    rw [assemble, insides_flush] at inside
    cases inside
  | item token rest inductionHypothesis =>
    cases is : tokenPiece token with
    | fixed fixed =>
      obtain ⟨next, _, ⟨later, same⟩ | ⟨_, _, same⟩⟩ :=
        exists_assemble_of_fixed is slash marked run rest
      · rw [same] at inside
        exact inductionHypothesis inside
      · rw [same, insides_flush] at inside
        rcases List.mem_cons.1 inside with rfl | later
        · exact .inl rfl
        · exact inductionHypothesis later
    | capture ahead block =>
      obtain ⟨next, _, same⟩ := exists_assemble_of_capture is slash marked run rest
      rw [same, insides_flush] at inside
      exact inductionHypothesis inside
    | stop =>
      obtain rfl := eq_stop_of_tokenPiece is
      rw [assemble, insides_flush] at inside
      exact inductionHypothesis inside
  | group within rest innerHypothesis inductionHypothesis =>
    rw [assemble, insides_flush] at inside
    rcases List.mem_cons.1 inside with rfl | others
    · exact .inr ⟨within, List.mem_cons_self, rfl⟩
    · rcases List.mem_append.1 others with deeper | later
      · rcases innerHypothesis deeper with slashed | ⟨level, found, same⟩
        · exact .inl slashed
        · exact .inr ⟨level, List.mem_cons_of_mem _ (List.mem_append_left _ found), same⟩
      · have behind : inner = .item (.fixed ['/']) .nil ∨
            inner ∈ (assemble slash marked none rest).insides := by
          split at later
          · exact List.mem_cons.1 later
          · exact .inr later
        rcases behind with slashed | behind
        · exact .inl slashed
        · rcases inductionHypothesis behind with slashed | ⟨level, found, same⟩
          · exact .inl slashed
          · exact .inr ⟨level, List.mem_cons_of_mem _ (List.mem_append_right _ found), same⟩

/-! ## Neighbours at one level of a program -/

/-- What a symbol may have right before it: a capture has a character there. -/
def Symbol.IsApart (before after : Symbol) : Prop :=
  ∀ block, after = .capture block → ∃ c, before = .character c

theorem isChain_characters (text : Text) : (characters text).IsChain Symbol.IsApart :=
  List.Pairwise.isChain <| List.pairwise_map.2 <| List.pairwise_of_forall fun _ _ _ => nofun

/-- One token is spelled with characters, and behind them with at most one capture. -/
theorem isChain_symbolsOf (piece : Piece) : (symbolsOf piece).IsChain Symbol.IsApart := by
  cases piece with
  | fixed text => exact isChain_characters text
  | stop => exact .singleton _
  | capture ahead block =>
    refine (isChain_characters ahead).append (.singleton _) fun before last _ _ _ _ => ?_
    obtain ⟨c, _, rfl⟩ := List.mem_map.1 (List.mem_of_mem_getLast? last)
    exact ⟨c, rfl⟩

theorem symbolsOf_ne_nil {token : Token} (sound : token.IsSound) :
    symbolsOf (tokenPiece token) ≠ [] := by
  cases token with
  | literal text => exact fun empty => sound.1 (List.map_eq_nil_iff.1 empty)
  | fixed text => cases sound
  | pair key value => cases value <;> simp [tokenPiece, symbolsOf, characters]
  | _ => simp [tokenPiece, symbolsOf, characters]

theorem isCapture_of_head?_symbolsOf {token : Token} {block : Capture}
    (head : (symbolsOf (tokenPiece token)).head? = some (.capture block)) :
    token.isCapture = true := by
  cases token with
  | capture other => rfl
  | literal text => cases text <;> cases head
  | pair key value =>
    cases value with
    | literal text => cases key <;> cases head
    | capture other => cases key <;> cases head
  | _ => cases head

theorem exists_character_of_mem {token : Token} {symbol : Symbol}
    (unlike : token.capture? = none ∧ token ≠ .stop)
    (member : symbol ∈ symbolsOf (tokenPiece token)) :
    ∃ c, symbol = .character c := by
  cases is : tokenPiece token with
  | fixed text =>
    rw [is] at member
    obtain ⟨c, _, rfl⟩ := List.mem_map.1 member
    exact ⟨c, rfl⟩
  | capture ahead block =>
    have captured := capture?_tokenPiece token
    rw [is, unlike.1] at captured
    cases captured
  | stop => exact absurd (eq_stop_of_tokenPiece is) unlike.2

theorem isChain_flatMap {tokens : List Token} (sound : ∀ token ∈ tokens, token.IsSound)
    (chain : tokens.IsChain IsApart) :
    (tokens.flatMap (symbolsOf ∘ tokenPiece)).IsChain Symbol.IsApart := by
  induction tokens with
  | nil => exact .nil
  | cons token rest inductionHypothesis =>
    obtain ⟨_, others⟩ := List.forall_mem_cons.1 sound
    refine (isChain_symbolsOf _).append (inductionHypothesis others chain.tail) ?_
    rintro before last _ head block rfl
    cases rest with
    | nil => cases head
    | cons next later =>
      have first : (symbolsOf (tokenPiece next)).head? = some (.capture block) := by
        obtain ⟨symbol, more, begun⟩ :=
          List.exists_cons_of_ne_nil (symbolsOf_ne_nil (others next List.mem_cons_self))
        simpa [begun] using head
      exact exists_character_of_mem
        ((List.isChain_cons_cons.1 chain).1 (isCapture_of_head?_symbolsOf first))
        (List.mem_of_mem_getLast? last)

/-- Right before a capture of a program there is fixed text. -/
theorem exists_fixed_of_isChain {front after : List Instruction} {before : Instruction}
    {block : Capture}
    (chain : ((front ++ before :: .capture block :: after).flatMap
      (symbolsOf ∘ pieceOf)).IsChain Symbol.IsApart) :
    ∃ text, before = .fixed text := by
  cases before with
  | fixed text => exact ⟨text, rfl⟩
  | capture other =>
    rw [List.flatMap_append] at chain
    obtain ⟨_, unlike⟩ := (List.isChain_append_cons_cons.1 chain).2.1 block rfl
    cases unlike
  | stop =>
    rw [List.flatMap_append] at chain
    obtain ⟨_, unlike⟩ := (List.isChain_append_cons_cons.1 chain).2.1 block rfl
    cases unlike

/-- Between captures of one level there is fixed text. -/
theorem exists_fixed_between {items front between after : List Instruction} {first second : Capture}
    (chain : (items.flatMap (symbolsOf ∘ pieceOf)).IsChain Symbol.IsApart)
    (same : items = front ++ .capture first :: (between ++ .capture second :: after)) :
    ∃ text, .fixed text ∈ between := by
  subst same
  rcases List.eq_nil_or_concat' between with rfl | ⟨others, last, rfl⟩
  · obtain ⟨_, unlike⟩ := exists_fixed_of_isChain chain
    cases unlike
  · have regrouped : front ++ .capture first :: (others ++ [last] ++ .capture second :: after) =
        (front ++ .capture first :: others) ++ last :: .capture second :: after := by simp
    rw [regrouped] at chain
    obtain ⟨text, rfl⟩ := exists_fixed_of_isChain chain
    exact ⟨text, by simp⟩

/-! ## The shape of programs -/

/-- One level of a program as running it relies on. -/
structure IsShapedLevel (level : Program) : Prop where
  /-- Fixed text is some text. -/
  full : .fixed [] ∉ level.topItems
  /-- Fixed text has no fixed text next to it. -/
  joined :
    ∀ front first second rest, level ≠ front ++ .item (.fixed first) (.item (.fixed second) rest)
  /-- Captures of a number of segments take at least one. -/
  counted :
    ∀ block segments, .capture block ∈ level.topItems → block.extent = .exactly segments →
      1 ≤ segments
  /-- Between captures there is fixed text. -/
  parted :
    ∀ front first between second after,
      level.topItems = front ++ .capture first :: (between ++ .capture second :: after) →
        ∃ text, .fixed text ∈ between
  /-- A capture is open just if no fixed text is left. -/
  opened :
    ∀ front block rest, level = front ++ .item (.capture block) rest →
      ((stops rest).isOpen = true ↔ ∀ text, .fixed text ∉ rest.topItems)

/-- The shape of a program that running it relies on. -/
structure IsShaped (program : Program) : Prop where
  levels : ∀ level ∈ program.levels, IsShapedLevel level
  /-- No group is empty. -/
  grouped : ∀ inner ∈ program.insides, inner ≠ .nil
  /-- The stop comes once at most, in no group, and nothing comes behind it. -/
  once : program.flatten.count .stop ≤ 1
  outside : .stop ∉ groupItems program
  last : ∀ front rest, program = front ++ .item .stop rest → rest = .nil

theorem IsCondensed.right_of_append {front rest : Program}
    (condensed : IsCondensed (front ++ rest)) :
    IsCondensed rest := by
  induction front with
  | nil => exact condensed
  | item instruction others inductionHypothesis =>
    cases instruction with
    | fixed text => exact inductionHypothesis condensed.2.2
    | capture | stop => exact inductionHypothesis condensed
  | group within others _ inductionHypothesis => exact inductionHypothesis condensed.2

theorem IsCondensed.fixed_nil_notMem {program : Program} (condensed : IsCondensed program) :
    .fixed [] ∉ program.topItems := by
  induction program with
  | nil => exact List.not_mem_nil
  | item instruction rest inductionHypothesis =>
    cases instruction with
    | fixed text =>
      have unlike : Instruction.fixed [] ≠ .fixed text := fun same =>
        condensed.1 (Instruction.fixed.inj same).symm
      exact List.not_mem_cons_of_ne_of_not_mem unlike (inductionHypothesis condensed.2.2)
    | capture | stop =>
      have later : IsCondensed rest := condensed
      exact List.not_mem_cons_of_ne_of_not_mem nofun (inductionHypothesis later)
  | group within rest _ inductionHypothesis => exact inductionHypothesis condensed.2

/-- Where fixed text comes before any capture and nothing behind a stop, a capture before all of it
is open just if there is no fixed text. -/
theorem isOpen_stops_iff {rest : Program}
    (parted :
      ∀ between second after, rest.topItems = between ++ .capture second :: after →
        ∃ text, .fixed text ∈ between)
    (last : StopsLast pieceOf rest) :
    (stops rest).isOpen = true ↔ ∀ text, .fixed text ∉ rest.topItems := by
  induction rest with
  | nil => exact ⟨fun _ _ => List.not_mem_nil, fun _ => rfl⟩
  | item instruction others _ =>
    cases instruction with
    | fixed text =>
      exact ⟨nofun, fun none => absurd List.mem_cons_self (none text)⟩
    | capture block =>
      obtain ⟨_, member⟩ := parted [] block others.topItems rfl
      cases member
    | stop =>
      obtain rfl := last.1 rfl
      exact ⟨fun _ _ => by simp [Grouped.topItems], fun _ => rfl⟩
  | group inner others _ inductionHypothesis => exact inductionHypothesis parted last

/-- A condensed level has its shape, if its symbols are apart. -/
theorem isShapedLevel_of_isChain {level : Program} (condensed : IsCondensed level)
    (chain : (spell pieceOf level).topItems.IsChain Symbol.IsApart) (last : StopsLast pieceOf level)
    (counted :
      ∀ block segments, .capture block ∈ level.topItems → block.extent = .exactly segments →
        1 ≤ segments) :
    IsShapedLevel level := by
  rw [topItems_spell] at chain
  refine ⟨condensed.fixed_nil_notMem, ?_, counted, fun _ _ _ _ _ => exists_fixed_between chain, ?_⟩
  · rintro front first second rest rfl
    cases condensed.right_of_append.2.1
  · rintro front block rest rfl
    refine isOpen_stops_iff (fun between second after same => ?_) last.right_of_append.2
    have top : (front ++ .item (.capture block) rest).topItems =
        front.topItems ++ .capture block :: (between ++ .capture second :: after) := by
      rw [Grouped.topItems_append, Grouped.topItems, same]
    exact exists_fixed_between chain top

/-- The program of a level has its shape, if the tokens of the level are sound and apart. -/
theorem isShapedLevel_ofPattern {slash : Bool} {level : Pattern}
    (sound : ∀ token ∈ level.flatten, token.IsSound) (chain : level.topItems.IsChain IsApart)
    (last : StopsLast tokenPiece level) :
    IsShapedLevel (ofPattern slash level) := by
  have texts : HasText level := fun member => (sound _ member).1 rfl
  have top : ∀ token ∈ level.topItems, token.IsSound := fun token member =>
    sound token (mem_flatten_iff.2 (.inl member))
  refine isShapedLevel_of_isChain (isCondensed_assemble texts nofun) ?_ (stopsLast_assemble last) ?_
  · rw [topItems_spell_ofPattern, topItems_spell]
    exact isChain_flatMap top chain
  · intro block segments member counts
    have captured : block ∈ (ofPattern slash level).captures :=
      List.mem_filterMap.2 ⟨_, mem_flatten_iff.2 (.inl member), rfl⟩
    rw [ofPattern, captures_assemble] at captured
    obtain ⟨token, found, is⟩ := List.mem_filterMap.1 captured
    rw [← capture?_tokenPiece] at is
    cases piece : tokenPiece token with
    | capture ahead other =>
      rw [piece] at is
      cases is
      exact ((Filling.isSound_of_tokenPiece (sound token found) piece).counted segments counts).1
    | fixed | stop =>
      rw [piece] at is
      cases is

theorem ofPattern_ne_nil {level : Pattern} (sound : ∀ token ∈ level.flatten, token.IsSound)
    (nonempty : level ≠ .nil) :
    ofPattern false level ≠ .nil := by
  intro empty
  have same : spell pieceOf (ofPattern false level) = spell tokenPiece level :=
    spell_assemble false none level
  rw [empty] at same
  cases level with
  | nil => exact nonempty rfl
  | group inner rest => cases same
  | item token rest =>
    obtain ⟨symbol, more, begun⟩ :=
      List.exists_cons_of_ne_nil (symbolsOf_ne_nil (sound token List.mem_cons_self))
    have spelled : spell tokenPiece (.item token rest) =
        .item symbol (prepend more (spell tokenPiece rest)) := by
      rw [spell, begun]
      rfl
    rw [spelled] at same
    cases same

theorem stop_notMem_topItems {slash : Bool} {level : Pattern}
    (unstopped : ∀ token ∈ level.topItems, token ≠ .stop) :
    .stop ∉ (ofPattern slash level).topItems := by
  intro member
  have spelled : .stop ∈ (spell pieceOf (ofPattern slash level)).topItems := by
    rw [topItems_spell]
    exact List.mem_flatMap.2 ⟨.stop, member, List.mem_cons_self⟩
  rw [topItems_spell_ofPattern, topItems_spell] at spelled
  obtain ⟨token, found, symbol⟩ := List.mem_flatMap.1 spelled
  have is : tokenPiece token = .stop := by
    unfold Function.comp at symbol
    cases is : tokenPiece token <;> simp_all [symbolsOf, characters]
  exact unstopped token found (eq_stop_of_tokenPiece is)

/-- The inside of a group of a program is the program of a body with sound tokens. -/
theorem exists_body_of_mem_insides {slash : Bool} {pattern : Pattern} {inner : Program}
    (formed : pattern.IsWellFormed) (inside : inner ∈ (ofPattern slash pattern).insides) :
    ∃ level slashes, inner = ofPattern false level ∧ level ≠ .nil ∧ IsBody slashes level ∧
      (∀ token ∈ level.flatten, token.IsSound) ∧ level.topItems.IsChain IsApart := by
  rcases exists_of_mem_insides_assemble inside with rfl | ⟨level, found, rfl⟩
  · refine ⟨.item .slash .nil, true, rfl, nofun, ⟨rfl, nofun, trivial⟩, ?_, .singleton _⟩
    exact List.forall_mem_singleton.2 trivial
  · obtain ⟨⟨parts, sound, rfl⟩, tokens, neighbours⟩ := formed
    obtain ⟨slashes, nonempty, body⟩ := parts.exists_isBody_of_mem_insides sound found
    have stretch := Grouped.isInfix_of_mem_insides found
    exact ⟨level, slashes, rfl, nonempty, body,
      fun token member => tokens token (stretch.subset member),
      body.isChain_topItems stretch neighbours⟩

/-- A pattern that follows the grammar has a program of the shape that running it relies on. -/
theorem isShaped_ofPattern {pattern : Pattern} (formed : pattern.IsWellFormed) (slash : Bool) :
    IsShaped (ofPattern slash pattern) := by
  have last : StopsLast pieceOf (ofPattern slash pattern) := by
    obtain ⟨parts, sound, rfl⟩ := formed.parts
    exact stopsLast_assemble (stopsLast_pattern sound)
  have outside : .stop ∉ groupItems (ofPattern slash pattern) := by
    intro member
    obtain ⟨inner, inside, top⟩ := Grouped.exists_of_mem_groupItems member
    obtain ⟨level, slashes, rfl, _, body, _⟩ := exists_body_of_mem_insides formed inside
    exact stop_notMem_topItems body.ne_stop top
  refine ⟨?_, ?_, count_stop_le_one last outside, outside, ?_⟩
  · intro level found
    rcases List.mem_cons.1 found with rfl | inside
    · obtain ⟨parts, sound, rfl⟩ := formed.parts
      exact isShapedLevel_ofPattern formed.tokens (parts.isChain_topItems sound formed.neighbours)
        (stopsLast_pattern sound)
    · obtain ⟨level, slashes, rfl, _, body, sound, chain⟩ :=
        exists_body_of_mem_insides formed inside
      have ended : StopsLast tokenPiece (.nil : Pattern) := trivial
      have lastInside := stopsLast_append body.ne_stop ended
      rw [Grouped.append_nil] at lastInside
      exact isShapedLevel_ofPattern sound chain lastInside
  · intro inner inside
    obtain ⟨level, _, rfl, nonempty, _, sound, _⟩ := exists_body_of_mem_insides formed inside
    exact ofPattern_ne_nil sound nonempty
  · intro front rest same
    rw [same] at last
    exact last.right_of_append.1 rfl

end TypedRoutes.Program

namespace TypedRoutes.Matching

open TypedRoutes.Program

/-- Whatever text is accepted as a pattern, its program has the shape that running it relies on,
with every setting. -/
theorem Matcher.isShaped_of_read {text : Text} {pattern : Pattern}
    (accepted : Pattern.read text = .ok pattern) (settings : Settings) :
    ∃ matcher, Matcher.compile text settings = .ok matcher ∧ IsShaped matcher.program := by
  obtain ⟨_, formed, _⟩ := Pattern.isWellFormed_of_read accepted
  exact ⟨_, compile_of_read accepted settings, isShaped_ofPattern formed _⟩

/-- The law at a pattern with a group in a group, a query and a stop. -/
theorem Matcher.isShaped_of_read_nested :
    ∃ matcher,
      Matcher.compile "/a(/{id}(-b))?q={v}!".toList ⟨false, true, false⟩ = .ok matcher ∧
        matcher.program.levels.length = 3 ∧ IsShaped matcher.program := by
  have readable : ((Pattern.read "/a(/{id}(-b))?q={v}!".toList).toOption.map fun pattern =>
      (ofPattern true pattern).levels.length) = some 3 := by decide +kernel
  cases accepted : Pattern.read "/a(/{id}(-b))?q={v}!".toList with
  | error refusal =>
    rw [accepted] at readable
    cases readable
  | ok pattern =>
    obtain ⟨matcher, compiled, shaped⟩ := Matcher.isShaped_of_read accepted ⟨false, true, false⟩
    refine ⟨matcher, compiled, ?_, shaped⟩
    rw [compile_of_read accepted] at compiled
    cases compiled
    rw [accepted] at readable
    exact Option.some.inj readable

end TypedRoutes.Matching
