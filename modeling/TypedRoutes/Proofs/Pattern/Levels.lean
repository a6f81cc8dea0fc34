import TypedRoutes.Proofs.Matching.Delivery
import TypedRoutes.Proofs.Pattern.Marks

/-!
Contract: the levels of a pattern and what is side by side at one of them.

A sequence has levels: itself, and the insides of its groups at any depth. As nothing but groups
follows a group of a body, the tokens at the top of such a level are a stretch of the flat view, and
obey the rule of neighbours there. At the top of a whole pattern groups are left out before a mark
only, and a mark may stand behind everything.

Owns: levels, and the rule of neighbours at one level. Does not own: programs.
-/

set_option autoImplicit false

/-! ## Levels -/

namespace TypedRoutes.Grouped

open TypedRoutes.Matching

variable {α : Type}

/-- The insides of all groups, at any depth. -/
def insides : Grouped α → List (Grouped α)
  | nil => []
  | item _ rest => rest.insides
  | group inner rest => inner :: (inner.insides ++ rest.insides)

/-- The sequence itself and the insides of all its groups. -/
def levels (sequence : Grouped α) : List (Grouped α) :=
  sequence :: sequence.insides

@[simp] theorem topItems_append (first second : Grouped α) :
    (first ++ second).topItems = first.topItems ++ second.topItems := by
  induction first with
  | nil => rfl
  | item head rest inductionHypothesis => simp [topItems, inductionHypothesis]
  | group inner rest _ inductionHypothesis => simp [topItems, inductionHypothesis]

@[simp] theorem insides_append (first second : Grouped α) :
    (first ++ second).insides = first.insides ++ second.insides := by
  induction first with
  | nil => rfl
  | item head rest inductionHypothesis => exact inductionHypothesis
  | group inner rest _ inductionHypothesis => simp [insides, inductionHypothesis]

theorem exists_of_mem_groupItems {sequence : Grouped α} {item : α}
    (member : item ∈ groupItems sequence) :
    ∃ inner ∈ sequence.insides, item ∈ inner.topItems := by
  induction sequence with
  | nil => cases member
  | item head rest inductionHypothesis => exact inductionHypothesis member
  | group inner rest innerHypothesis inductionHypothesis =>
    rcases List.mem_append.1 member with inside | later
    · rcases mem_flatten_iff.1 inside with top | deeper
      · exact ⟨inner, List.mem_cons_self, top⟩
      · obtain ⟨within, found, top⟩ := innerHypothesis deeper
        exact ⟨within, List.mem_cons_of_mem _ (List.mem_append_left _ found), top⟩
    · obtain ⟨within, found, top⟩ := inductionHypothesis later
      exact ⟨within, List.mem_cons_of_mem _ (List.mem_append_right _ found), top⟩

/-- The flat view of an inside is a stretch of the flat view of the sequence. -/
theorem isInfix_of_mem_insides {sequence inner : Grouped α} (inside : inner ∈ sequence.insides) :
    inner.flatten <:+: sequence.flatten := by
  induction sequence with
  | nil => cases inside
  | item head rest inductionHypothesis =>
    exact (inductionHypothesis inside).trans (List.suffix_cons head _).isInfix
  | group within rest innerHypothesis inductionHypothesis =>
    rcases List.mem_cons.1 inside with rfl | deeper
    · exact (List.prefix_append _ _).isInfix
    · rcases List.mem_append.1 deeper with deeper | later
      · exact (innerHypothesis deeper).trans (List.prefix_append _ _).isInfix
      · exact (inductionHypothesis later).trans (List.suffix_append _ _).isInfix

end TypedRoutes.Grouped

/-! ## Neighbours at one level of a pattern -/

namespace TypedRoutes.Pattern

/-- What a token may have right before it at its level: before a capture without text of its own
there is neither another capture nor the stop. -/
def IsApart (before after : Token) : Prop :=
  after.isCapture = true → before.capture? = none ∧ before ≠ .stop

theorem IsBody.of_mem_insides {slashes : Bool} {pattern inner : Pattern}
    (body : IsBody slashes pattern) (inside : inner ∈ pattern.insides) :
    inner ≠ .nil ∧ IsBody slashes inner := by
  induction pattern with
  | nil => cases inside
  | item token rest inductionHypothesis => exact inductionHypothesis body.2.2 inside
  | group within rest innerHypothesis inductionHypothesis =>
    rcases List.mem_cons.1 inside with rfl | deeper
    · exact ⟨body.1, body.2.1⟩
    · rcases List.mem_append.1 deeper with deeper | later
      · exact innerHypothesis body.2.1 deeper
      · exact inductionHypothesis body.2.2.2 later

theorem topItems_of_isAllGroups {pattern : Pattern} (groups : isAllGroups pattern = true) :
    pattern.topItems = [] := by
  induction pattern with
  | nil => rfl
  | item => cases groups
  | group inner rest _ inductionHypothesis => exact inductionHypothesis groups

/-- As nothing but groups follows a group of a body, its tokens at the top are side by side. -/
theorem IsBody.topItems_prefix {slashes : Bool} {pattern : Pattern}
    (body : IsBody slashes pattern) :
    pattern.topItems <+: pattern.flatten := by
  induction pattern with
  | nil => exact List.prefix_rfl
  | item token rest inductionHypothesis =>
    exact List.prefix_cons_inj token |>.2 (inductionHypothesis body.2.2)
  | group inner rest _ _ =>
    rw [Grouped.topItems, topItems_of_isAllGroups body.2.2.1]
    exact List.nil_prefix

/-- In a body the tokens at the top stand apart as the flat view has them. -/
theorem IsBody.isChain_topItems {slashes : Bool} {pattern : Pattern} {tokens : List Token}
    (body : IsBody slashes pattern) (stretch : pattern.flatten <:+: tokens)
    (neighbours : tokens.IsChain fun before after => before.mayFollow after = true) :
    pattern.topItems.IsChain IsApart := by
  have chain := neighbours.infix (body.topItems_prefix.isInfix.trans stretch)
  refine chain.imp_of_mem_imp fun before after member _ follows captured => ?_
  have fits := body.tokens before (body.topItems_prefix.subset member)
  cases after with
  | capture block =>
    cases before with
    | slash | literal => exact ⟨rfl, nofun⟩
    | capture => cases follows
    | _ => cases fits
  | _ => cases captured

/-- Where nothing is a capture of its own, everything may have anything before it. -/
theorem isChain_of_uncaptured {tokens : List Token}
    (uncaptured : ∀ token ∈ tokens, token.isCapture = false) :
    tokens.IsChain IsApart :=
  List.Pairwise.isChain <| pairwise_of_forall_mem fun _ _ after member captured => by
    rw [uncaptured after member] at captured
    cases captured

theorem isChain_append {first second : List Token} (chain : first.IsChain IsApart)
    (later : second.IsChain IsApart) (begun : ∀ token ∈ second.head?, token.isCapture = false) :
    (first ++ second).IsChain IsApart :=
  chain.append later fun _ _ after head captured => by
    rw [begun after head] at captured
    cases captured

theorem head?_append_uncaptured {first second : List Token}
    (uncaptured : ∀ token ∈ first, token.isCapture = false)
    (begun : ∀ token ∈ second.head?, token.isCapture = false) :
    ∀ token ∈ (first ++ second).head?, token.isCapture = false := by
  cases first with
  | nil => exact begun
  | cons head rest =>
    rintro _ ⟨⟩
    exact uncaptured _ List.mem_cons_self

/-- A query has no stop in it, and no captures but those of its pairs. -/
theorem queryFrom_topItems (mark : Token) (isOpen : Bool) (pairs : List (Text × PairValue))
    (marked : mark.isCapture = false ∧ mark ≠ .stop) :
    ∀ token ∈ (queryFrom mark isOpen pairs).topItems, token.isCapture = false ∧ token ≠ .stop := by
  induction pairs generalizing mark with
  | nil =>
    cases isOpen with
    | false => exact fun _ member => absurd member List.not_mem_nil
    | true => simpa [queryFrom, Grouped.topItems] using marked
  | cons pair rest inductionHypothesis =>
    refine List.forall_mem_cons.2 ⟨marked, List.forall_mem_cons.2 ⟨⟨rfl, by simp⟩, ?_⟩⟩
    exact inductionHypothesis .ampersand ⟨rfl, by simp⟩

namespace Parts

theorem topItems_ending (parts : Parts) :
    ∀ token ∈ parts.ending.topItems, token.isCapture = false := by
  unfold ending
  cases parts.isStopped <;> simp [Grouped.topItems, Token.isCapture]

/-- The groups of sound parts are in their bodies. -/
theorem exists_isBody_of_mem_insides {parts : Parts} {inner : Pattern} (sound : parts.AreSound)
    (inside : inner ∈ parts.pattern.insides) :
    ∃ slashes, inner ≠ .nil ∧ IsBody slashes inner := by
  have ended : parts.ending.insides = [] := by
    unfold ending
    cases parts.isStopped <;> rfl
  have queried (mark : Token) : (queryFrom mark parts.isOpen parts.pairs).insides = [] := by
    generalize parts.pairs = pairs
    induction pairs generalizing mark with
    | nil => cases parts.isOpen <;> rfl
    | cons pair rest inductionHypothesis => exact inductionHypothesis .ampersand
  rw [pattern, afterPath, afterQuery, Grouped.insides_append, Grouped.insides_append,
    queried] at inside
  rcases List.mem_append.1 inside with path | later
  · exact ⟨true, sound.path.of_mem_insides path⟩
  · cases found : parts.fragment with
    | none =>
      rw [found] at later
      simp [ended] at later
    | some body =>
      rw [found] at later
      simp only [List.nil_append, Grouped.insides, Grouped.insides_append, ended,
        List.append_nil] at later
      exact ⟨false, (sound.fragment body found).of_mem_insides later⟩

/-- At the top of a pattern each token may have before it what it has. -/
theorem isChain_topItems {parts : Parts} (sound : parts.AreSound)
    (neighbours : parts.pattern.flatten.IsChain fun before after => before.mayFollow after = true) :
    parts.pattern.topItems.IsChain IsApart := by
  have ended : parts.ending.topItems.IsChain IsApart :=
    isChain_of_uncaptured parts.topItems_ending
  have behind : parts.afterQuery.topItems.IsChain IsApart ∧
      ∀ token ∈ parts.afterQuery.topItems.head?, token.isCapture = false := by
    unfold afterQuery
    cases found : parts.fragment with
    | none =>
      exact ⟨ended, fun token head =>
        parts.topItems_ending token (List.mem_of_mem_head? head)⟩
    | some body =>
      have stretch : body.flatten <:+: parts.pattern.flatten := by
        simp only [pattern, afterPath, afterQuery, found, Grouped.flatten_append, Grouped.flatten]
        exact ⟨parts.path.flatten ++
          ((queryFrom .question parts.isOpen parts.pairs).flatten ++ [.hash]),
          parts.ending.flatten, by simp⟩
      have chain := (sound.fragment body found).isChain_topItems stretch neighbours
      refine ⟨?_, by simp [Grouped.topItems, Token.isCapture]⟩
      rw [Grouped.topItems, Grouped.topItems_append]
      refine (isChain_append chain ended fun token head =>
        parts.topItems_ending token (List.mem_of_mem_head? head)).cons ?_
      exact fun _ _ _ => ⟨rfl, by simp⟩
  have queried : ∀ token ∈ (queryFrom .question parts.isOpen parts.pairs).topItems,
      token.isCapture = false := fun token member =>
    (queryFrom_topItems .question parts.isOpen parts.pairs ⟨rfl, by simp⟩ token member).1
  have path : parts.path.topItems.IsChain IsApart := by
    refine sound.path.isChain_topItems ?_ neighbours
    rw [pattern, Grouped.flatten_append]
    exact (List.prefix_append _ _).isInfix
  rw [pattern, afterPath, Grouped.topItems_append, Grouped.topItems_append]
  exact isChain_append path (isChain_append (isChain_of_uncaptured queried) behind.1 behind.2)
    (head?_append_uncaptured queried behind.2)

end Parts

theorem IsBody.ne_stop {slashes : Bool} {pattern : Pattern} (body : IsBody slashes pattern) :
    ∀ token ∈ pattern.topItems, token ≠ .stop := by
  rintro _ member rfl
  cases body.tokens .stop (body.topItems_prefix.subset member)

end TypedRoutes.Pattern
