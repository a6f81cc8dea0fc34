import TypedRoutes.Proofs.Pattern.Completion
import TypedRoutes.Proofs.Pattern.Edges

/-!
Contract: what a diagnosis says is there to be seen in the text.

The reason of a diagnosis speaks of characters: of those right behind its place and of what is
before it, where the brackets of groups may be in between. A fault is found by a reader of lexemes,
by a step that refuses an element, or where a group ends; each time the characters it speaks of are
in the text. No diagnosis blames the reader itself.

Owns: what each reason says of the text, and that every diagnosis is borne out.
Does not own: which kinds of text are expected.
-/

set_option autoImplicit false

namespace TypedRoutes.Pattern

open TypedRoutes.Text TypedRoutes.Number

/-! ## What reasons say of the text -/

/-- What a reason says of the text before its place and behind it, and of the character shown with
it. -/
def Reason.IsSeen (before behind : Text) (badChar : Option Text) : Reason → Prop
  | .tokensAfterStop => before.getLast? = some '!'
  | .doubleSlash => behind.head? = some '/' ∧ lastPlain? before = some '/'
  | .ampersandBeforeQuestion => behind.head? = some '&'
  | .adjacentCaptures => behind.head? = some '{' ∧ lastPlain? before = some '}'
  | .secondQuestion => behind.head? = some '?' ∧ '?' ∈ before
  | .badIdentifier => ∃ c, behind.head? = some c ∧ badChar = some [c]
  | .zeroSegments => before.getLast? = some '{' ∧ ∃ c ∈ behind.head?, isDigit c = true
  | .emptyGroup => before.getLast? = some '(' ∧ behind.head? = some ')'
  | .unclosedGroup => behind = []
  | .markInGroup => ∃ c ∈ behind.head?, isPartMark c = true
  | .concreteAfterGroup => before.getLast? = some ')'
  | .unknownState | .impossibleToken => False

/-- What is seen before a place is also seen with more text in front. -/
theorem Reason.IsSeen.prepend {before behind : Text} {badChar : Option Text} {reason : Reason}
    (more : Text) (seen : reason.IsSeen before behind badChar) :
    reason.IsSeen (more ++ before) behind badChar := by
  have last {c : Char} (ends : before.getLast? = some c) :
      (more ++ before).getLast? = some c := by
    rw [List.getLast?_append, ends]
    rfl
  have lastPlain {c : Char} (ends : lastPlain? before = some c) :
      lastPlain? (more ++ before) = some c := by
    rw [lastPlain?] at ends ⊢
    rw [List.filter_append, List.getLast?_append, ends]
    rfl
  cases reason with
  | tokensAfterStop => exact last seen
  | doubleSlash => exact ⟨seen.1, lastPlain seen.2⟩
  | adjacentCaptures => exact ⟨seen.1, lastPlain seen.2⟩
  | secondQuestion => exact ⟨seen.1, List.mem_append_right _ seen.2⟩
  | zeroSegments => exact ⟨last seen.1, seen.2⟩
  | emptyGroup => exact ⟨last seen.1, seen.2⟩
  | concreteAfterGroup => exact last seen
  | _ => exact seen

/-- A fault at a place in the text where its reason can be seen. A character is shown with
identifiers only. -/
def Fault.IsBorneOut (fault : Fault) (text : Text) : Prop :=
  ∃ before, text = before ++ fault.rest ∧
    (fault.badChar ≠ none → fault.reason = some .badIdentifier) ∧
      ∀ reason ∈ fault.reason, reason.IsSeen before fault.rest (fault.badChar.map ([·]))

namespace Fault

theorem IsBorneOut.prepend {fault : Fault} {text : Text} (more : Text)
    (borneOut : fault.IsBorneOut text) :
    fault.IsBorneOut (more ++ text) := by
  obtain ⟨before, rfl, unnamed, seen⟩ := borneOut
  refine ⟨more ++ before, (List.append_assoc _ _ _).symm, unnamed, ?_⟩
  intro reason given
  exact (seen reason given).prepend more

theorem isBorneOut_of_seen {fault : Fault} {reason : Reason} (before : Text)
    (given : fault.reason = some reason) (unnamed : fault.badChar = none)
    (seen : reason.IsSeen before fault.rest none) :
    fault.IsBorneOut (before ++ fault.rest) := by
  refine ⟨before, rfl, fun named => absurd unnamed named, ?_⟩
  rw [given, unnamed]
  rintro _ ⟨⟩
  exact seen

/-- A fault without a reason says nothing of the text. -/
theorem isBorneOut_of_plain {fault : Fault} {text : Text} (inside : fault.rest <:+ text)
    (unreasoned : fault.reason = none) (unnamed : fault.badChar = none) :
    fault.IsBorneOut text := by
  obtain ⟨before, rfl⟩ := inside
  refine ⟨before, rfl, fun named => absurd unnamed named, ?_⟩
  rw [unreasoned]
  nofun

theorem isBorneOut_identifierFault (badChar : Char) (rest : Text) :
    (identifierFault badChar rest).IsBorneOut (badChar :: rest) := by
  refine ⟨[], rfl, fun _ => rfl, ?_⟩
  rintro _ ⟨⟩
  exact ⟨badChar, rfl, rfl⟩

end Fault

/-! ## Faults of lexemes -/

/-- Whether the faults of a reader are borne out by the text it is in. -/
def HasEvidence {α : Type} (text : Text) (answer : Except Refusal α) : Prop :=
  ∀ fault, answer = .error (.fault fault) → fault.IsBorneOut text

namespace HasEvidence

variable {α β : Type} {text : Text}

theorem ok {result : α} : HasEvidence text (.ok result) := by
  intro fault same
  cases same

theorem prepend {answer : Except Refusal α} (more : Text) (evident : HasEvidence text answer) :
    HasEvidence (more ++ text) answer := by
  intro fault refused
  exact (evident fault refused).prepend more

theorem bind {first : Except Refusal α} {rest : α → Except Refusal β}
    (here : HasEvidence text first)
    (later : ∀ found, first = .ok found → HasEvidence text (rest found)) :
    HasEvidence text (first >>= rest) := by
  intro fault refused
  rcases bind_eq_error_iff.1 refused with refused | ⟨found, accepted, refused⟩
  · exact here fault refused
  · exact later found accepted fault refused

end HasEvidence

theorem hasEvidence_unexpected {α : Type} {text rest : Text} (kinds : List Kind)
    (inside : rest <:+ text) :
    HasEvidence text (unexpected kinds rest : Except Refusal α) := by
  rintro fault ⟨⟩
  exact Fault.isBorneOut_of_plain inside rfl rfl

theorem isBorneOut_of_nameFault? {name rest : Text} {fault : Fault}
    (faulty : nameFault? name rest = some fault) :
    fault.IsBorneOut (name ++ rest) := by
  unfold nameFault? at faulty
  split at faulty
  · cases faulty
    exact Fault.isBorneOut_of_plain (List.suffix_refl _) rfl rfl
  · rename_i first more
    split at faulty
    · split at faulty
      · cases faulty
      · rename_i bad after remains
        cases faulty
        have evident := (Fault.isBorneOut_identifierFault bad (after ++ rest)).prepend
          (first :: more.takeWhile continuesIdentifier)
        have whole : first :: more.takeWhile continuesIdentifier ++ bad :: (after ++ rest) =
            first :: more ++ rest := by
          show first :: (_ ++ (bad :: after ++ rest)) = first :: (more ++ rest)
          rw [← remains, ← List.append_assoc, List.takeWhile_append_dropWhile]
        rwa [whole] at evident
    · cases faulty
      exact Fault.isBorneOut_identifierFault first (more ++ rest)

theorem hasEvidence_scanName (input : Text) : HasEvidence input (scanName input) := by
  intro fault refused
  unfold scanName at refused
  dsimp only at refused
  split at refused
  · rename_i found faulty
    cases refused
    have evident := isBorneOut_of_nameFault? faulty
    rwa [List.takeWhile_append_dropWhile] at evident
  · cases refused

theorem hasEvidence_scanColonName (input : Text) : HasEvidence input (scanColonName input) := by
  unfold scanColonName
  split
  · rename_i rest
    exact ((hasEvidence_scanName rest).prepend [':']).bind fun _ _ => .ok
  · exact .ok

theorem hasEvidence_scanAllowed (values : List Text) (current input : Text) :
    HasEvidence input (scanAllowed values current input) := by
  induction input generalizing values current with
  | nil => exact hasEvidence_unexpected _ (List.suffix_refl _)
  | cons c rest inductionHypothesis =>
    unfold scanAllowed
    split
    · exact .ok
    · split
      · exact hasEvidence_unexpected _ (List.suffix_refl _)
      · split
        · split
          · exact hasEvidence_unexpected _ (List.suffix_refl _)
          · exact (inductionHypothesis _ _).prepend [c]
        · exact (inductionHypothesis _ _).prepend [c]

theorem hasEvidence_scanOptionalAllowed (input : Text) :
    HasEvidence input (scanOptionalAllowed input) := by
  unfold scanOptionalAllowed
  split
  · rename_i rest
    exact ((hasEvidence_scanAllowed [] [] rest).prepend ['(']).bind fun _ _ => .ok
  · exact .ok

theorem hasEvidence_closeCapture (input : Text) : HasEvidence input (closeCapture input) := by
  unfold closeCapture
  split
  · exact .ok
  · exact hasEvidence_unexpected _ (List.suffix_refl _)

/-- A count of zero stands right behind the opening brace of its capture. -/
theorem hasEvidence_scanSegments {first : Char} {more : Text} (digit : isDigit first = true) :
    HasEvidence ('{' :: first :: more) (scanSegments (first :: more)) := by
  intro fault refused
  rw [scanSegments_cons] at refused
  split at refused
  · cases refused
    exact (Fault.isBorneOut_identifierFault first more).prepend ['{']
  · split at refused
    · cases refused
    · cases refused
      exact Fault.isBorneOut_of_seen ['{'] rfl rfl ⟨rfl, first, rfl, digit⟩
    · cases refused

theorem hasEvidence_scanInside (body : Text) :
    HasEvidence ('{' :: body) (scanInside body) := by
  cases body with
  | nil => exact hasEvidence_unexpected _ (List.suffix_cons _ _)
  | cons first rest =>
    rw [scanInside]
    split
    · exact ((hasEvidence_scanColonName rest).prepend ['{', first]).bind fun _ _ => .ok
    · split
      · rename_i digit
        refine (hasEvidence_scanSegments digit).bind ?_
        rintro ⟨segments, after⟩ numbered
        obtain ⟨digits, rfl, _⟩ := exists_lexeme_of_scanSegments digit numbered
        exact ((hasEvidence_scanColonName after).prepend ('{' :: first :: digits)).bind
          fun _ _ => .ok
      · split
        · refine ((hasEvidence_scanName (first :: rest)).prepend ['{']).bind ?_
          rintro ⟨name, after⟩ named
          rw [scanName_eq named]
          exact ((hasEvidence_scanOptionalAllowed after).prepend ('{' :: name)).bind
            fun _ _ => .ok
        · exact ((hasEvidence_scanOptionalAllowed (first :: rest)).prepend ['{']).bind
            fun _ _ => .ok

theorem hasEvidence_scanCaptureBody (body : Text) :
    HasEvidence ('{' :: body) (scanCaptureBody body) := by
  rw [scanCaptureBody_eq]
  refine (hasEvidence_scanInside body).bind ?_
  rintro ⟨block, after⟩ inside
  obtain ⟨lexeme, rfl, _⟩ := exists_lexeme_of_scanInside inside
  exact ((hasEvidence_closeCapture after).prepend ('{' :: lexeme)).bind fun _ _ => .ok

theorem hasEvidence_scanPair (input : Text) : HasEvidence input (scanPair input) := by
  have left : (scanLiteral input).2 <:+ input := ⟨_, escapeBraces_scanLiteral input⟩
  unfold scanPair
  dsimp only
  split
  · rename_i value afterKey
    have valued : value <:+ input := by
      rw [afterKey] at left
      exact (List.suffix_cons _ _).trans left
    split
    · exact hasEvidence_unexpected _ left
    · split
      · rename_i capture
        obtain ⟨body, rfl⟩ := exists_of_startsWithCapture capture
        obtain ⟨front, rfl⟩ := valued
        refine ((hasEvidence_scanCaptureBody body).prepend front).bind ?_
        intro found _
        split
        · exact .ok
        · exact hasEvidence_unexpected _ (List.suffix_append _ _)
      · split
        · have rest : (scanLiteral value).2 <:+ value := ⟨_, escapeBraces_scanLiteral value⟩
          exact hasEvidence_unexpected _ (rest.trans valued)
        · exact .ok
  · exact hasEvidence_unexpected _ left

theorem hasEvidence_scanToken (state : State) (c : Char) (input : Text) :
    HasEvidence (c :: input) (scanToken state (c :: input)) := by
  rcases scanToken_cons state c with ⟨_, _, _, _, law, _⟩ | ⟨_, law⟩ | ⟨_, law⟩
  · rw [law]
    exact .ok
  · rw [law]
    exact hasEvidence_scanPair (c :: input)
  · rw [law]
    split
    · rename_i capture
      obtain ⟨_, same⟩ := exists_of_startsWithCapture capture
      rw [(List.cons.inj same).1]
      exact (hasEvidence_scanCaptureBody input).bind fun _ _ => .ok
    · split
      · rintro fault ⟨⟩
        exact Fault.isBorneOut_of_plain (List.suffix_refl _) rfl rfl
      · exact .ok

/-! ## Faults of steps -/

/-- What a reason says of the state that refuses an element. A query pair where none has to come,
and fixed text, are refused in states of their own that no text leads to. -/
def State.Blames (state : State) (element : Element Token) : Reason → Prop
  | .tokensAfterStop => state.zone = .finished
  | .doubleSlash => element = .item .slash ∧ state.last? = some .slash
  | .adjacentCaptures =>
    (∃ block, element = .item (.capture block)) ∧ ∃ block, state.last? = some (.capture block)
  | .ampersandBeforeQuestion => element = .item .ampersand
  | .secondQuestion => element = .item .question ∧ state.zone.isQuery = true
  | .concreteAfterGroup => isGroup state.previous = true
  | .unknownState | .impossibleToken =>
    (∃ text, element = .item (.fixed text)) ∨
      ∃ key value, element = .item (.pair key value) ∧ state.zone ≠ .awaiting
  | _ => False

theorem blames_of_stepFromStart {previous : Option (Element Token)} {element : Element Token}
    {reason : Reason} (refused : stepFromStart element = .error (some reason)) :
    State.Blames ⟨.start, previous⟩ element reason := by
  cases element with
  | group inner => cases refused
  | item token =>
    cases token with
    | ampersand => cases refused; exact rfl
    | fixed text => cases refused; exact .inl ⟨text, rfl⟩
    | pair key value => cases refused; exact .inr ⟨key, value, rfl, by simp [State.zone]⟩
    | _ => cases refused

theorem blames_of_stepFromPath {previous : Option (Element Token)} {element : Element Token}
    {reason : Reason} (refused : stepFromPath previous element = .error (some reason)) :
    State.Blames ⟨.path, previous⟩ element reason := by
  unfold stepFromPath at refused
  split at refused
  · cases refused
  · cases refused
    exact rfl
  · cases refused
  · cases refused
  · cases refused
  · cases refused
    exact .inr ⟨_, _, rfl, by simp [State.zone]⟩
  · split at refused
    · rename_i behind
      cases refused
      exact behind
    · split at refused
      · cases refused
        exact ⟨rfl, rfl⟩
      · cases refused
        exact ⟨⟨_, rfl⟩, _, rfl⟩
      · cases refused
        exact .inl ⟨_, rfl⟩
      · cases refused

theorem blames_of_stepFromQuery {state : State} {element : Element Token} {reason : Reason}
    (inQuery : state.inQuery = true)
    (refused : stepFromQuery state element = .error (some reason)) :
    state.Blames element reason := by
  unfold stepFromQuery at refused
  split at refused
  · cases refused
    refine ⟨rfl, ?_⟩
    rw [State.zone_of_inQuery inQuery]
    cases state.awaitsPair <;> rfl
  all_goals cases refused

theorem blames_of_stepFromFragment {previous : Option (Element Token)} {element : Element Token}
    {reason : Reason} (refused : stepFromFragment previous element = .error (some reason)) :
    State.Blames ⟨.fragment, previous⟩ element reason := by
  unfold stepFromFragment at refused
  split at refused
  · cases refused
  · cases refused
  · split at refused
    · rename_i behind
      cases refused
      exact behind
    · cases refused
  · split at refused
    · cases refused
      exact rfl
    · cases refused
      exact ⟨⟨_, rfl⟩, _, rfl⟩
    · cases refused
  · cases refused

/-- A state that refuses an element has a cause for the reason it gives. -/
theorem State.blames_of_step {state : State} {element : Element Token} {reason : Reason}
    (refused : state.step element = .error (some reason)) :
    state.Blames element reason := by
  obtain ⟨part, previous⟩ := state
  cases part with
  | start => exact blames_of_stepFromStart refused
  | path => exact blames_of_stepFromPath refused
  | firstQuery | laterQuery => exact blames_of_stepFromQuery rfl refused
  | fragment => exact blames_of_stepFromFragment refused
  | finished =>
    cases refused
    exact rfl

theorem zone_of_scanToken_pair {state : State} {c : Char} {input rest key : Text}
    {value : PairValue} (scanned : scanToken state (c :: input) = .ok (.pair key value, rest)) :
    state.zone = .awaiting := by
  rcases scanToken_cons state c with ⟨_, _, plain, _, law, _⟩ | ⟨awaits, _⟩ | ⟨_, law⟩
  · rw [law] at scanned
    cases scanned
    cases plain
  · rw [State.awaits_eq] at awaits
    exact of_decide_eq_true awaits
  · rw [law] at scanned
    split at scanned
    · obtain ⟨_, _, returned⟩ := bind_eq_ok_iff.1 scanned
      cases returned
    · split at scanned <;> cases scanned

section

variable {seen rest after : Text} {position : Position} {c : Char} {token : Token}

/-- What a state blames on a token is seen around the place of the token. -/
theorem Reaches.isSeen_of_token {reason : Reason} (reaches : Reaches seen position)
    (scanned : scanToken position.level.state (c :: rest) = .ok (token, after))
    (blames : position.level.state.Blames (.item token) reason) :
    reason.IsSeen seen (c :: rest) none := by
  have begins := head?_source_of_scanToken scanned
  have last := reaches.lastPlain?_eq
  cases reason with
  | tokensAfterStop => exact reaches.getLast?_of_finished blames
  | doubleSlash =>
    obtain ⟨same, before⟩ := blames
    cases same
    exact ⟨(begins rfl).symm, last _ before⟩
  | adjacentCaptures =>
    obtain ⟨⟨block, same⟩, other, before⟩ := blames
    cases same
    exact ⟨(begins rfl).symm, (last _ before).trans (getLast?_source other)⟩
  | ampersandBeforeQuestion =>
    cases blames
    exact (begins rfl).symm
  | secondQuestion =>
    obtain ⟨same, queried⟩ := blames
    cases same
    exact ⟨(begins rfl).symm, reaches.question_mem queried⟩
  | concreteAfterGroup => exact reaches.getLast?_of_isGroup blames
  | unknownState | impossibleToken =>
    rcases blames with ⟨text, same⟩ | ⟨key, value, same, elsewhere⟩
    · cases same
      exact (scanToken_isSound scanned : Token.IsSound (.fixed text))
    · cases same
      exact elsewhere (zone_of_scanToken_pair scanned)
  | _ => cases blames

/-- What a state blames on a group is seen before the place of the group. -/
theorem Reaches.isSeen_of_group {reason : Reason} (reaches : Reaches seen position)
    (blames : position.level.state.Blames (.group .nil) reason) :
    reason.IsSeen seen ('(' :: rest) none := by
  cases reason with
  | tokensAfterStop => exact reaches.getLast?_of_finished blames
  | concreteAfterGroup => exact reaches.getLast?_of_isGroup blames
  | doubleSlash | secondQuestion => cases blames.1
  | adjacentCaptures =>
    obtain ⟨⟨_, same⟩, _⟩ := blames
    cases same
  | unknownState | impossibleToken =>
    rcases blames with ⟨_, same⟩ | ⟨_, _, same, _⟩ <;> cases same
  | _ => cases blames

/-- A token that is not taken is a fault that the text bears out. -/
theorem Reaches.isBorneOut_of_take {fault : Fault} (reaches : Reaches seen position)
    (scanned : scanToken position.level.state (c :: rest) = .ok (token, after))
    (refused : position.level.take token position.inGroup (c :: rest) = .error (.fault fault)) :
    fault.IsBorneOut (seen ++ c :: rest) := by
  unfold Level.take at refused
  split at refused
  · rename_i marked
    cases refused
    have isMark := (Bool.and_eq_true_iff.1 marked).2
    have begins := head?_source_of_scanToken scanned
    refine Fault.isBorneOut_of_seen seen rfl rfl ⟨c, rfl, ?_⟩
    cases token with
    | question | ampersand | hash | stop => cases begins rfl; rfl
    | _ => cases isMark
  · split at refused
    · rename_i reason stepped
      cases refused
      cases reason with
      | none => exact Fault.isBorneOut_of_plain (List.suffix_append _ _) rfl rfl
      | some reason =>
        have blames := State.blames_of_step stepped
        exact Fault.isBorneOut_of_seen seen rfl rfl (reaches.isSeen_of_token scanned blames)
    · cases refused

/-- Where the reader halts, the text bears out its fault. -/
theorem Reaches.isBorneOut_of_halts {fault : Fault} (reaches : Reaches seen position)
    (halts : position.Halts rest (.fault fault)) :
    fault.IsBorneOut (seen ++ rest) := by
  cases halts with
  | blank => exact Fault.isBorneOut_of_plain (List.suffix_append _ _) rfl rfl
  | unclosed => exact Fault.isBorneOut_of_seen seen rfl rfl rfl
  | stray => exact Fault.isBorneOut_of_plain (List.suffix_append _ _) rfl rfl
  | hollow inside empty =>
    have opened := reaches.getLast?_of_fresh inside empty
    exact Fault.isBorneOut_of_seen seen rfl rfl ⟨opened, rfl⟩
  | @opening rest reason refused =>
    cases reason with
    | none => exact Fault.isBorneOut_of_plain (List.suffix_append _ _) rfl rfl
    | some reason =>
      have blames := State.blames_of_step refused
      exact Fault.isBorneOut_of_seen seen rfl rfl (reaches.isSeen_of_group blames)
  | lexeme _ refused => exact (hasEvidence_scanToken _ _ _ fault refused).prepend seen
  | token _ scanned refused => exact reaches.isBorneOut_of_take scanned refused

end

/-! ## Diagnoses -/

/-- Whether a text bears out a diagnosis: it is of this text, its place is in it, and its reason is
seen around the place. A character is shown with identifiers only. -/
structure Diagnosis.IsBorneOut (diagnosis : Diagnosis) (text : Text) : Prop where
  ofText : diagnosis.pattern = text
  begun : 0 ≤ diagnosis.offset
  within : diagnosis.offset ≤ text.length
  unnamed : diagnosis.reason ≠ some .badIdentifier → diagnosis.badChar = none
  seen :
    ∀ reason ∈ diagnosis.reason,
      reason.IsSeen (text.take diagnosis.offset.toNat) (text.drop diagnosis.offset.toNat)
        diagnosis.badChar

end TypedRoutes.Pattern

namespace TypedRoutes

open TypedRoutes.Text TypedRoutes.Pattern

/-- Every diagnosis is borne out by its text. -/
theorem Pattern.isBorneOut_of_read {text : Text} {diagnosis : Diagnosis}
    (refused : Pattern.read text = .error (.malformed diagnosis)) :
    diagnosis.IsBorneOut text := by
  obtain ⟨refusal, stops, located⟩ := Pattern.read_eq_error_iff.1 refused
  cases refusal with
  | number error => cases located
  | fault fault =>
    cases located
    obtain ⟨part, rest, position, rfl, reaches, _, halts⟩ := stops
    obtain ⟨before, whole, unnamed, seen⟩ := reaches.isBorneOut_of_halts halts
    rw [List.nil_append] at whole
    have taken := Fault.take_offset whole
    have left : (part ++ rest).drop
        (fault.diagnosis (part ++ rest) 0 (part ++ rest)).offset.toNat = fault.rest := by
      have split := List.take_append_drop
        (fault.diagnosis (part ++ rest) 0 (part ++ rest)).offset.toNat (part ++ rest)
      rw [taken] at split
      exact List.append_cancel_left (split.trans whole)
    refine ⟨rfl, by simp [Fault.diagnosis], ?_, ?_, ?_⟩
    · simp only [Fault.diagnosis]
      omega
    · intro otherwise
      by_contra named
      exact otherwise (unnamed fun none => named (by simp [Fault.diagnosis, none]))
    · rw [taken, left]
      exact seen

/-- The law at a slash in a group right behind a group that ends in one. -/
theorem Pattern.isBorneOut_of_read_groups :
    ∃ diagnosis, Pattern.read "/a(/)(/b)".toList = .error (.malformed diagnosis) ∧
      diagnosis.reason = some .doubleSlash ∧ diagnosis.IsBorneOut "/a(/)(/b)".toList := by
  have refused : Pattern.read "/a(/)(/b)".toList =
      .error (.malformed
        { reason := some .doubleSlash
          expected := State.expected ⟨.path, some (.item .slash)⟩ true
          offset := 6
          pattern := "/a(/)(/b)".toList
          badChar := none }) := by
    cbv
  exact ⟨_, refused, rfl, Pattern.isBorneOut_of_read refused⟩

end TypedRoutes
