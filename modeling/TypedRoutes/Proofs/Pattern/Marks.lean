import TypedRoutes.Proofs.Pattern.Grammar

/-!
Contract: the marks of a pattern that is put together from parts.

Bodies have no marks, so in the flat view each mark stands where the parts put it: one before the
query, one before the fragment and one at the end.

Owns: the flat views of the parts, and the order of their marks.
-/

set_option autoImplicit false

namespace TypedRoutes.Pattern

theorem pairwise_of_forall_mem {tokens : List Token} {related : Token → Token → Prop}
    (holds : ∀ before ∈ tokens, ∀ after ∈ tokens, related before after) :
    tokens.Pairwise related :=
  (List.pairwise_of_forall fun _ _ => trivial).imp_of_mem fun before after _ =>
    holds _ before _ after

theorem IsBody.tokens {slashes : Bool} {pattern : Pattern} (body : IsBody slashes pattern) :
    ∀ token ∈ pattern.flatten, token.isBodyToken true = true := by
  induction pattern with
  | nil => simp [Grouped.flatten]
  | item token rest inductionHypothesis =>
    exact List.forall_mem_cons.2 ⟨Token.isBodyToken_true body.1, inductionHypothesis body.2.2⟩
  | group inner rest innerHypothesis inductionHypothesis =>
    intro token member
    rcases List.mem_append.1 member with inside | later
    · exact innerHypothesis body.2.1 token inside
    · exact inductionHypothesis body.2.2.2 token later

theorem queryFrom_tokens (isOpen : Bool) (pairs : List (Text × PairValue)) :
    ∀ token ∈ (queryFrom .ampersand isOpen pairs).flatten, token.isQueryToken = true := by
  induction pairs with
  | nil => cases isOpen <;> simp [queryFrom, Grouped.flatten, Token.isQueryToken]
  | cons pair rest inductionHypothesis =>
    refine List.forall_mem_cons.2 ⟨rfl, List.forall_mem_cons.2 ⟨rfl, inductionHypothesis⟩⟩

/-- A token of a body is no mark, and can stand before every token. -/
theorem Token.mayPrecede_of_isBodyToken {token : Token} (fits : token.isBodyToken true = true) :
    token ≠ .question ∧ token ≠ .hash ∧ token.isQueryToken = false ∧
      ∀ after, token.mayPrecede after = true := by
  cases token <;> simp_all [Token.isBodyToken, Token.isQueryToken, Token.mayPrecede]

theorem eq_nil_of_stop_mayPrecede {tokens : List Token}
    (before : ∀ token ∈ tokens, Token.mayPrecede .stop token = true) :
    tokens = [] := by
  rw [List.eq_nil_iff_forall_not_mem]
  intro token member
  have impossible := before token member
  simp [Token.mayPrecede] at impossible

/-- The query in the flat view: its mark comes first, and only once. -/
theorem queryFrom_flatten {query : List Token} (isOpen : Bool) (pairs : List (Text × PairValue))
    (flat : (queryFrom .question isOpen pairs).flatten = query) :
    query.count .question ≤ 1 ∧ .hash ∉ query ∧
      (∀ token ∈ query, token.isQueryToken = true → .question ∈ query) ∧
        query.Pairwise (fun before after => before.mayPrecede after = true) ∧
          ∀ token ∈ query, ∀ after, after ≠ .question → token.mayPrecede after = true := by
  have begun : query = [] ∨ ∃ tokens, query = .question :: tokens ∧
      ∀ token ∈ tokens, token.isQueryToken = true := by
    subst flat
    cases pairs with
    | nil =>
      cases isOpen with
      | false => exact .inl rfl
      | true => exact .inr ⟨[], rfl, by simp⟩
    | cons pair rest =>
      exact .inr ⟨_, rfl, List.forall_mem_cons.2 ⟨rfl, queryFrom_tokens isOpen rest⟩⟩
  rcases begun with rfl | ⟨tokens, rfl, queried⟩
  · simp
  · have before (token after : Token) (member : token ∈ tokens) (later : after ≠ .question) :
        token.mayPrecede after = true := by
      have isQuery := queried token member
      cases token <;> simp_all [Token.isQueryToken, Token.mayPrecede]
    have noQuestion : .question ∉ tokens := fun member => by cases queried _ member
    have noHash : .hash ∉ tokens := fun member => by cases queried _ member
    refine ⟨?_, by simpa using noHash, by simp, ?_, ?_⟩
    · rw [List.count_cons_self, List.count_eq_zero.2 noQuestion]
    · refine List.pairwise_cons.2 ⟨fun _ _ => rfl, pairwise_of_forall_mem fun token member => ?_⟩
      exact fun after behind => before token after member fun same => noQuestion (same ▸ behind)
    · exact List.forall_mem_cons.2 ⟨fun _ _ => rfl, fun token member after later =>
        before token after member later⟩

/-- The fragment and the stop in the flat view: nothing of a query is there. -/
theorem Parts.afterQuery_flatten {parts : Parts} {behind : List Token} (sound : parts.AreSound)
    (flat : parts.afterQuery.flatten = behind) :
    behind.count .hash ≤ 1 ∧
      (∀ token ∈ behind, token ≠ .question ∧ token.isQueryToken = false) ∧
        behind.Pairwise (fun before after => before.mayPrecede after = true) := by
  subst flat
  have ended : parts.ending.flatten = [] ∨ parts.ending.flatten = [.stop] := by
    unfold Parts.ending
    cases parts.isStopped
    · exact .inl rfl
    · exact .inr rfl
  unfold Parts.afterQuery
  cases fragment : parts.fragment with
  | none => rcases ended with none | stop <;> simp [*, Token.isQueryToken]
  | some body =>
    have unmarked := fun token member =>
      Token.mayPrecede_of_isBodyToken ((sound.fragment body fragment).tokens token member)
    have noHash : .hash ∉ body.flatten ++ parts.ending.flatten := by
      intro member
      rcases List.mem_append.1 member with inBody | inEnding
      · exact (unmarked _ inBody).2.1 rfl
      · rcases ended with none | stop <;> simp_all
    have unqueried : ∀ token ∈ body.flatten ++ parts.ending.flatten,
        token ≠ .question ∧ token.isQueryToken = false := by
      intro token member
      rcases List.mem_append.1 member with inBody | inEnding
      · exact ⟨(unmarked _ inBody).1, (unmarked _ inBody).2.2.1⟩
      · rcases ended with none | stop <;> simp_all [Token.isQueryToken]
    simp only [Grouped.flatten, Grouped.flatten_append]
    refine ⟨?_, List.forall_mem_cons.2 ⟨by simp [Token.isQueryToken], unqueried⟩, ?_⟩
    · rw [List.count_cons_self, List.count_eq_zero.2 noHash]
    · refine List.pairwise_cons.2 ⟨fun token member => ?_, List.pairwise_append.2 ⟨?_, ?_, ?_⟩⟩
      · rw [Token.mayPrecede, (unqueried token member).2]
        rfl
      · exact pairwise_of_forall_mem fun token member after _ => (unmarked token member).2.2.2 after
      · rcases ended with none | stop <;> simp [*]
      · exact fun token member after _ => (unmarked token member).2.2.2 after

/-- Sound parts put the marks in their places. -/
theorem Parts.hasOrderedMarks {parts : Parts} (sound : parts.AreSound) :
    parts.pattern.HasOrderedMarks := by
  have path := fun token member => Token.mayPrecede_of_isBodyToken (sound.path.tokens token member)
  have flat : parts.pattern.flatten =
      parts.path.flatten ++
        ((queryFrom .question parts.isOpen parts.pairs).flatten ++ parts.afterQuery.flatten) := by
    rw [Parts.pattern, Parts.afterPath, Grouped.flatten_append, Grouped.flatten_append]
  obtain ⟨oneQuestion, noHash, queried, queryOrdered, queryFirst⟩ :=
    queryFrom_flatten parts.isOpen parts.pairs rfl
  obtain ⟨oneHash, unqueried, behindOrdered⟩ := Parts.afterQuery_flatten sound rfl
  generalize parts.path.flatten = front at path flat
  generalize (queryFrom .question parts.isOpen parts.pairs).flatten = middle at *
  generalize parts.afterQuery.flatten = behind at *
  constructor
  all_goals rw [flat]
  · have noneInFront : front.count .question = 0 :=
      List.count_eq_zero.2 fun member => (path _ member).1 rfl
    have noneBehind : behind.count .question = 0 :=
      List.count_eq_zero.2 fun member => (unqueried _ member).1 rfl
    rw [List.count_append, List.count_append]
    omega
  · have noneInFront : front.count .hash = 0 :=
      List.count_eq_zero.2 fun member => (path _ member).2.1 rfl
    have noneInQuery : middle.count .hash = 0 := List.count_eq_zero.2 noHash
    rw [List.count_append, List.count_append]
    omega
  · intro token member isQuery
    rcases List.mem_append.1 member with inPath | later
    · rw [(path token inPath).2.2.1] at isQuery
      contradiction
    · rcases List.mem_append.1 later with inQuery | inRest
      · exact List.mem_append_right _ (List.mem_append_left _ (queried token inQuery isQuery))
      · rw [(unqueried token inRest).2] at isQuery
        contradiction
  · refine List.pairwise_append.2 ⟨?_, List.pairwise_append.2 ⟨queryOrdered, behindOrdered, ?_⟩, ?_⟩
    · exact pairwise_of_forall_mem fun token member after _ => (path token member).2.2.2 after
    · exact fun token member after later => queryFirst token member after (unqueried after later).1
    · exact fun token member after _ => (path token member).2.2.2 after

end TypedRoutes.Pattern
