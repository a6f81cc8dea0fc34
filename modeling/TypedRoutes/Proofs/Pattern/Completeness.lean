import TypedRoutes.Proofs.Pattern.Neighbours
import TypedRoutes.Proofs.Pattern.Printed

/-!
Contract: every well-formed pattern is read from its own text.

The text of a pattern is read token by token as it was written: each token is taken back whatever
follows it, and each step finds the zone and the token before it that the grammar promises. Parts
of a pattern are read one after the other.

Owns: derivations for the text of bodies, queries and fragments, and the round trip of patterns.
-/

set_option autoImplicit false

namespace TypedRoutes.Pattern

open TypedRoutes.Text

/-! ## Steps of a derivation -/

/-- A token is read where its zone and the token before it allow for it. -/
theorem Reads.cons_source {inGroup : Bool} {state final : State} {token : Token} {zone : Zone}
    {between rest : Text} {others : Pattern} (regular : state.IsRegular)
    (follows : state.zone.after? (.item token) = some zone) (admits : state.Admits (.item token))
    (sound : token.IsSound) (printable : token.IsPrintable)
    (unmarked : (inGroup && token.isPartMark) = false)
    (ended : token.runsOn = true → (scanLiteral between).1 = [])
    (remaining : Reads inGroup (state.move (.item token)) between others final rest) :
    Reads inGroup state (token.source ++ between) (.item token others) final rest := by
  have placed : token.isPartMark = true ∨
      (∃ key value, token = .pair key value) ∧ (state.inQuery && state.awaitsPair) = true ∨
        (∀ key value, token ≠ .pair key value) ∧ (state.inQuery && state.awaitsPair) = false := by
    rw [State.awaits_eq]
    generalize state.zone = before at follows ⊢
    cases before <;> cases token <;> cases follows <;> simp [Token.isPartMark]
  have stepped : state.step (.item token) = .ok (state.move (.item token)) :=
    (State.step_eq_ok_iff regular).2 ⟨by rw [follows]; rfl, admits, rfl⟩
  obtain ⟨c, more, written, plain, scanned⟩ := scanToken_source sound printable placed ended
  rw [written]
  exact .token plain scanned unmarked stepped remaining

/-! ## Bodies -/

theorem Token.isPrintable_of_isBodyToken {slashes : Bool} {token : Token}
    (fits : token.isBodyToken slashes = true) :
    token.IsPrintable ∧ token.isPartMark = false := by
  cases token <;> first | exact ⟨trivial, rfl⟩ | cases fits

/-- No literal goes on into the text of a body that begins with none. -/
theorem scanLiteral_source_of_isBody {slashes : Bool} {pattern : Pattern} {rest : Text}
    (body : IsBody slashes pattern) (sound : ∀ token ∈ pattern.flatten, token.IsSound)
    (bare : startsWithLiteral pattern = false) (ended : (scanLiteral rest).1 = []) :
    (scanLiteral (pattern.source ++ rest)).1 = [] := by
  cases pattern with
  | nil => exact ended
  | group inner others => rfl
  | item token others =>
    obtain ⟨fits, _⟩ := body
    rw [Pattern.source, List.append_assoc]
    cases token with
    | slash => rfl
    | literal text => cases bare
    | capture block =>
      exact (Capture.begins_source (sound (.capture block) List.mem_cons_self) _).2
    | _ => cases fits

theorem IsBody.hasFullGroups {slashes : Bool} {pattern : Pattern} (body : IsBody slashes pattern) :
    HasFullGroups pattern := by
  induction pattern with
  | nil => trivial
  | item token rest inductionHypothesis => exact inductionHypothesis body.2.2
  | group inner rest innerHypothesis inductionHypothesis =>
    exact ⟨body.1, innerHypothesis body.2.1, inductionHypothesis body.2.2.2⟩

/-- A body is read from its text, and leaves the zone as it is. -/
theorem exists_reads_of_isBody {slashes : Bool} {pattern : Pattern} (inGroup : Bool) (state : State)
    (rest : Text) (body : IsBody slashes pattern) (sound : ∀ token ∈ pattern.flatten, token.IsSound)
    (regular : state.IsRegular) (zoned : state.zone.isBody = true)
    (same : state.zone.hasSlashes = slashes)
    (groups : isGroup state.previous = true → isAllGroups pattern = true)
    (chain : (state.last?.toList ++ pattern.flatten).IsChain
      fun before after => before.mayFollow after = true)
    (ended : (scanLiteral rest).1 = []) :
    ∃ final, Reads inGroup state (pattern.source ++ rest) pattern final rest ∧
      final.IsRegular ∧ final.zone = state.zone := by
  induction pattern generalizing inGroup state rest with
  | nil => exact ⟨state, .done, regular, rfl⟩
  | item token others inductionHypothesis =>
    obtain ⟨fits, separate, othersBody⟩ := body
    obtain ⟨tokenSound, othersSound⟩ := List.forall_mem_cons.1 sound
    obtain ⟨printable, unmarked⟩ := Token.isPrintable_of_isBodyToken fits
    have follows : state.zone.after? (.item token) = some state.zone :=
      Zone.after?_of_isBodyToken zoned (by rw [same]; exact fits)
    have admits : state.Admits (.item token) := by
      refine ⟨fun _ => ?_, fun before isLast => ?_⟩
      · rw [Bool.eq_false_iff]
        intro behind
        cases groups behind
      · rw [Option.mem_def.1 isLast] at chain
        exact (List.isChain_cons_cons.1 chain).1
    have moved := State.zone_move follows
    obtain ⟨final, remaining, finalRegular, finalZone⟩ :=
      inductionHypothesis inGroup (state.move (.item token)) rest othersBody othersSound
        (State.move_isRegular _ _) (by rw [moved]; exact zoned) (by rw [moved]; exact same)
        (fun behind => by cases behind) chain.right_of_append ended
    refine ⟨final, ?_, finalRegular, finalZone.trans moved⟩
    rw [Pattern.source, List.append_assoc]
    refine .cons_source regular follows admits tokenSound printable (by simp [unmarked]) ?_
      remaining
    intro runsOn
    refine scanLiteral_source_of_isBody othersBody othersSound (separate ?_) ended
    cases token with
    | literal text => rfl
    | pair key value => cases fits
    | _ => cases runsOn
  | group inner others innerHypothesis inductionHypothesis =>
    obtain ⟨nonempty, innerBody, othersGroups, othersBody⟩ := body
    have innerSound := fun token member => sound token (List.mem_append_left _ member)
    have othersSound := fun token member => sound token (List.mem_append_right _ member)
    have follows (within : Pattern) : state.zone.after? (.group within) = some state.zone :=
      Zone.after?_group_eq_some_iff.2 ⟨zoned, rfl⟩
    have stepped (within : Pattern) :
        state.step (.group within) = .ok (state.move (.group within)) :=
      (State.step_eq_ok_iff regular).2 ⟨by rw [follows]; rfl, trivial, rfl⟩
    have entered := State.zone_enterGroup zoned
    have moved := State.zone_move (follows inner)
    rw [Grouped.flatten, ← List.append_assoc] at chain
    obtain ⟨inside, within, _, _⟩ :=
      innerHypothesis true state.enterGroup (')' :: (Pattern.source others ++ rest)) innerBody
        innerSound
        (State.enterGroup_isRegular regular) (by rw [entered]; exact zoned)
        (by rw [entered]; exact same)
        (fun behind => by rw [State.isGroup_enterGroup] at behind; cases behind)
        (by rw [State.last?_enterGroup]; exact chain.left_of_append) rfl
    have later : ((state.move (.group inner)).last?.toList ++ Grouped.flatten others).IsChain
        fun before after => before.mayFollow after = true := by
      have some := flatten_ne_nil innerBody.hasFullGroups nonempty
      rw [State.last?_move_group, last?_eq_getLast? innerBody.hasFullGroups,
        List.getLast?_eq_getLast_of_ne_nil some]
      rw [← List.dropLast_append_getLast some, ← List.append_assoc, List.append_assoc] at chain
      exact chain.right_of_append
    obtain ⟨final, remaining, finalRegular, finalZone⟩ :=
      inductionHypothesis inGroup (state.move (.group inner)) rest othersBody othersSound
        (State.move_isRegular _ _) (by rw [moved]; exact zoned)
        (by rw [moved]; exact same) (fun _ => othersGroups) later ended
    refine ⟨final, ?_, finalRegular, finalZone.trans moved⟩
    rw [Pattern.source, List.append_assoc, List.cons_append]
    exact .group (stepped .nil) within nonempty (stepped inner) remaining

/-! ## Queries and what follows them -/

/-- Nothing stands in the way of a token that is none of a body. -/
theorem State.admits_of_isBodyToken_eq_false {token : Token} (state : State)
    (foreign : token.isBodyToken true = false) :
    state.Admits (.item token) := by
  refine ⟨fun fits => absurd fits (by simp [foreign]), fun before _ => ?_⟩
  cases token <;> first | rfl | cases foreign

theorem Reads.cons_mark {state final : State} {token : Token} {zone : Zone} {between rest : Text}
    {others : Pattern} (isMark : token.isPartMark = true) (regular : state.IsRegular)
    (follows : state.zone.after? (.item token) = some zone)
    (remaining : Reads false (state.move (.item token)) between others final rest) :
    Reads false state (token.source ++ between) (.item token others) final rest := by
  have foreign : token.isBodyToken true = false ∧ token.runsOn = false := by
    cases token <;> first | exact ⟨rfl, rfl⟩ | cases isMark
  have fine : token.IsSound ∧ token.IsPrintable := by
    cases token <;> first | exact ⟨trivial, trivial⟩ | cases isMark
  exact .cons_source regular follows (state.admits_of_isBodyToken_eq_false foreign.1) fine.1 fine.2
    rfl (by simp [foreign.2]) remaining

/-- A query is read from its text. If it is not left open, it ends where it began or behind a
pair. -/
theorem exists_reads_queryFrom {mark : Token} {isOpen : Bool} {pairs : List (Text × PairValue)}
    {rest : Text} (state : State) (isMark : mark.isPartMark = true) (regular : state.IsRegular)
    (begins : state.zone.after? (.item mark) = some .awaiting)
    (sound : ∀ token ∈ (queryFrom mark isOpen pairs).flatten, token.IsSound ∧ token.IsPrintable)
    (ended : (scanLiteral rest).1 = []) :
    ∃ final,
      Reads false state (Pattern.source (queryFrom mark isOpen pairs) ++ rest)
          (queryFrom mark isOpen pairs) final rest ∧
        final.IsRegular ∧ (isOpen = false → final.zone = state.zone ∨ final.zone = .paired) := by
  induction pairs generalizing state mark with
  | nil =>
    cases isOpen with
    | false => exact ⟨state, .done, regular, fun _ => .inl rfl⟩
    | true =>
      refine ⟨_, ?_, State.move_isRegular state (.item mark), by simp⟩
      simp only [queryFrom, if_true, Pattern.source, List.append_nil]
      exact .cons_mark isMark regular begins .done
  | cons pair others inductionHypothesis =>
    obtain ⟨key, value⟩ := pair
    have marked := State.zone_move begins
    obtain ⟨_, pairFine, othersFine⟩ :=
      List.forall_mem_cons.1 sound |>.imp id List.forall_mem_cons.1
    have follows : (state.move (.item mark)).zone.after? (.item (.pair key value)) =
        some .paired := by
      rw [marked]
      rfl
    have paired := State.zone_move follows
    obtain ⟨final, remaining, finalRegular, finalZone⟩ :=
      inductionHypothesis _ rfl (State.move_isRegular _ _) (by rw [paired]; rfl) othersFine
    refine ⟨final, ?_, finalRegular, fun closed => .inr ?_⟩
    · simp only [queryFrom, Pattern.source, List.append_assoc]
      refine .cons_mark isMark regular begins ?_
      refine .cons_source (State.move_isRegular _ _) follows
        (State.admits_of_isBodyToken_eq_false _ rfl) pairFine.1 pairFine.2 rfl (fun _ => ?_)
        remaining
      cases others with
      | nil => cases isOpen <;> first | exact ended | rfl
      | cons next more => rfl
    · rcases finalZone closed with same | same
      · exact same.trans paired
      · exact same

/-- The stop, if there is one, is read at the end of each part. -/
theorem exists_reads_ending {state : State} (parts : Parts) (regular : state.IsRegular)
    (stops : state.zone.after? (.item .stop) = some .finished) :
    ∃ final, Reads false state (Pattern.source parts.ending) parts.ending final [] := by
  unfold Parts.ending
  cases parts.isStopped with
  | false => exact ⟨state, .done⟩
  | true => exact ⟨_, .cons_mark rfl regular stops .done⟩

theorem exists_reads_afterQuery {state : State} {parts : Parts} (sound : parts.AreSound)
    (tokens : ∀ token ∈ parts.afterQuery.flatten, token.IsSound)
    (chain : parts.afterQuery.flatten.IsChain fun before after => before.mayFollow after = true)
    (regular : state.IsRegular) (zoned : state.zone = .path ∨ state.zone = .paired) :
    ∃ final, Reads false state (Pattern.source parts.afterQuery) parts.afterQuery final [] := by
  unfold Parts.afterQuery at *
  cases fragment : parts.fragment with
  | none =>
    refine exists_reads_ending parts regular ?_
    rcases zoned with zoned | zoned <;> rw [zoned] <;> rfl
  | some body =>
    rw [fragment] at tokens chain
    have begins : state.zone.after? (.item .hash) = some .fragment := by
      rcases zoned with zoned | zoned <;> rw [zoned] <;> rfl
    have moved := State.zone_move begins
    simp only [Grouped.flatten, Grouped.flatten_append] at tokens chain
    have bodySound := fun token member =>
      tokens token (List.mem_cons_of_mem _ (List.mem_append_left _ member))
    obtain ⟨inside, reads, insideRegular, insideZone⟩ :=
      exists_reads_of_isBody false (state.move (.item .hash)) (Pattern.source parts.ending)
        (sound.fragment body fragment) bodySound
        (State.move_isRegular _ _) (by rw [moved]; rfl) (by rw [moved]; rfl)
        (fun behind => by cases behind) (by exact List.IsChain.left_of_append chain)
        (by unfold Parts.ending; cases parts.isStopped <;> rfl)
    obtain ⟨final, remaining⟩ :=
      exists_reads_ending parts insideRegular (by rw [insideZone, moved]; rfl)
    refine ⟨final, ?_⟩
    simp only [Pattern.source, Pattern.source_append]
    exact .cons_mark rfl regular begins (reads.append remaining)

/-- A well-formed pattern is read from its own text. -/
theorem exists_reads_source {pattern : Pattern} (wellFormed : pattern.IsWellFormed)
    (printable : ∀ token ∈ pattern.flatten, token.IsPrintable) :
    ∃ final, Reads false .initial pattern.source pattern final [] := by
  obtain ⟨⟨parts, sound, rfl⟩, tokens, chain⟩ := wellFormed
  have regular : State.initial.IsRegular := fun _ => rfl
  have flat : parts.pattern.flatten =
      parts.path.flatten ++
        ((queryFrom .question parts.isOpen parts.pairs).flatten ++ parts.afterQuery.flatten) := by
    rw [Parts.pattern, Parts.afterPath, Grouped.flatten_append, Grouped.flatten_append]
  have written : parts.pattern.source =
      parts.path.source ++
        (Pattern.source (queryFrom .question parts.isOpen parts.pairs) ++
          Pattern.source parts.afterQuery) := by
    rw [Parts.pattern, Parts.afterPath, Pattern.source_append, Pattern.source_append]
  rw [flat] at tokens printable chain
  have behindEnds : (scanLiteral (Pattern.source parts.afterQuery)).1 = [] := by
    unfold Parts.afterQuery Parts.ending
    cases parts.fragment <;> cases parts.isStopped <;> rfl
  have queryEnds :
      (scanLiteral (Pattern.source (queryFrom .question parts.isOpen parts.pairs) ++
        Pattern.source parts.afterQuery)).1 = [] := by
    cases parts.pairs with
    | nil => cases parts.isOpen <;> first | exact behindEnds | rfl
    | cons pair others => rfl
  obtain ⟨behindPath, pathReads, pathRegular, pathZone⟩ :=
    exists_reads_of_isBody false .initial _ sound.path
      (fun token member => tokens token (List.mem_append_left _ member)) regular rfl rfl
      (fun behind => by cases behind) chain.left_of_append queryEnds
  obtain ⟨behindQuery, queryReads, queryRegular, queryZone⟩ :=
    exists_reads_queryFrom behindPath rfl pathRegular (by rw [pathZone]; rfl)
      (fun token member =>
        have inPattern := List.mem_append_right _ (List.mem_append_left _ member)
        ⟨tokens token inPattern, printable token inPattern⟩) behindEnds
  have behindReads : ∃ final,
      Reads false behindQuery (Pattern.source parts.afterQuery) parts.afterQuery final [] := by
    by_cases opened : parts.isOpen = true
    · obtain ⟨unfragmented, unstopped⟩ := sound.closed opened
      have nothing : parts.afterQuery = .nil := by
        simp [Parts.afterQuery, Parts.ending, unfragmented, unstopped]
      rw [nothing]
      exact ⟨behindQuery, .done⟩
    · refine exists_reads_afterQuery sound (fun token member => ?_)
        chain.right_of_append.right_of_append queryRegular
        ((queryZone (Bool.eq_false_iff.2 opened)).imp_left fun same => same.trans pathZone)
      exact tokens token (List.mem_append_right _ (List.mem_append_right _ member))
  obtain ⟨final, behindReads⟩ := behindReads
  refine ⟨final, ?_⟩
  rw [written]
  exact pathReads.append (queryReads.append behindReads)

theorem Reads.source_accepted {pattern : Pattern} {final : State}
    (reads : Reads false .initial pattern.source pattern final []) (nonempty : pattern ≠ .nil) :
    Pattern.read pattern.source = .ok pattern := by
  refine read_eq_ok_iff.2 ⟨fun empty => ?_, final, reads⟩
  rw [empty] at reads
  cases reads
  exact nonempty rfl

end TypedRoutes.Pattern

namespace TypedRoutes

open TypedRoutes.Pattern

/-- A well-formed pattern comes back from its own text. -/
theorem Pattern.read_source {pattern : Pattern} (nonempty : pattern ≠ .nil)
    (wellFormed : pattern.IsWellFormed) (printable : ∀ token ∈ pattern.flatten, token.IsPrintable) :
    Pattern.read pattern.source = .ok pattern := by
  obtain ⟨final, reads⟩ := exists_reads_source wellFormed printable
  exact reads.source_accepted nonempty

/-- The law at a pattern with braces next to a capture, a group and a query. -/
theorem Pattern.read_source_braces :
    let pattern : Pattern :=
      .item (.literal ['a', '{']) (.item (.capture ⟨.one, some ['i', 'd'], none⟩)
        (.group (.item (.literal ['}', 'b']) .nil)
          (.item .question (.item (.pair ['q'] (.literal ['v'])) .nil))))
    pattern ≠ .nil ∧ pattern.IsWellFormed ∧
      (∀ token ∈ pattern.flatten, token.IsPrintable) ∧
        Pattern.read pattern.source = .ok pattern := by
  intro pattern
  have nonempty : pattern ≠ .nil := by decide
  have named : Capture.IsSound ⟨.one, some ['i', 'd'], none⟩ := by
    refine ⟨?_, by rintro _ ⟨⟩, by simp⟩
    rintro _ ⟨⟩
    decide +kernel
  have wellFormed : pattern.IsWellFormed := by
    let path : Pattern :=
      .item (.literal ['a', '{']) (.item (.capture ⟨.one, some ['i', 'd'], none⟩)
        (.group (.item (.literal ['}', 'b']) .nil) .nil))
    refine ⟨⟨{ path, pairs := [(['q'], .literal ['v'])] }, ⟨?_, ?_, ?_⟩, rfl⟩, ?_, ?_⟩
    · decide
    · simp
    · simp
    · simp [pattern, Grouped.flatten, Token.IsSound, IsPlain, isBarred, named]
    · decide
  have printable : ∀ token ∈ pattern.flatten, token.IsPrintable := by
    simp [pattern, Grouped.flatten, Token.IsPrintable, IsBraceless]
  exact ⟨nonempty, wellFormed, printable, Pattern.read_source nonempty wellFormed printable⟩

end TypedRoutes
