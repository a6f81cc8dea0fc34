import TypedRoutes.Proofs.Pattern.Completion

/-!
Contract: what a diagnosis offers inside of groups.

No group holds the mark of a new part. Where the reader refuses an element of a group, or the end of
a text with a group open, it does not offer these marks, nor does it inside of a capture. It does so
in one case only: where no token begins at all, with an equals sign or a closing brace that is not
doubled, it offers what could stand there outside of groups.

Owns: the faults that offer marks of parts inside of groups. Does not own: what can stand at the
place of a fault.
-/

set_option autoImplicit false

namespace TypedRoutes.Pattern

open TypedRoutes.Text

/-- Whether the mark of a part is among kinds that are offered. -/
def offersMark (kinds : List Kind) : Bool :=
  kinds.any (partMarks.contains ·)

/-- Whether no token begins with a text that goes on: an equals sign comes first, or a closing brace
that is not doubled. -/
def startsNoToken : Text → Bool
  | '=' :: _ => true
  | '}' :: '}' :: _ => false
  | '}' :: _ => true
  | _ => false

/-! ## What states offer -/

namespace State

/-- Inside of a group a state offers no mark. -/
theorem offersMark_expected_inGroup (state : State) :
    offersMark (state.expected true) = false := by
  rw [offersMark, List.any_eq_false]
  intro kind offered
  rw [expected, if_pos rfl, Kind.mem_ordered, List.mem_cons, List.mem_filter] at offered
  rcases offered with rfl | ⟨_, unmarked⟩
  · decide
  · simpa using unmarked

/-- Outside of groups a body can be stopped anywhere, and no group can be closed. -/
theorem expected_of_isBody {state : State} (body : state.zone.isBody = true) :
    .stop ∈ state.expected false ∧ .groupClose ∉ state.expected false := by
  rw [expected, if_neg Bool.false_ne_true, Kind.mem_ordered, Kind.mem_ordered]
  obtain ⟨part, previous⟩ := state
  cases part with
  | start => simp [accepted, pathTail, captureKinds]
  | path =>
    unfold accepted
    dsimp only
    split <;> simp [pathTail, captureKinds]
  | firstQuery | laterQuery =>
    simp only [State.zone] at body
    split at body <;> cases body
  | fragment =>
    unfold accepted
    dsimp only
    split <;> simp [captureKinds]
  | finished => cases body

theorem offersMark_expected_of_isBody {state : State} (body : state.zone.isBody = true) :
    offersMark (state.expected false) = true :=
  List.any_eq_true.2 ⟨.stop, (expected_of_isBody body).1, rfl⟩

theorem awaits_of_isBody {state : State} (body : state.zone.isBody = true) :
    (state.inQuery && state.awaitsPair) = false := by
  rw [awaits_eq, decide_eq_false_iff_not]
  intro awaits
  rw [awaits] at body
  cases body

end State

/-! ## What readers of lexemes offer -/

/-- Whether the faults of a reader offer no mark. -/
def OffersNoMark {α : Type} (answer : Except Refusal α) : Prop :=
  ∀ fault, answer = .error (.fault fault) → offersMark fault.expected = false

namespace OffersNoMark

variable {α β : Type}

theorem ok {result : α} : OffersNoMark (.ok result) := by
  intro fault same
  cases same

theorem bind {first : Except Refusal α} {rest : α → Except Refusal β} (here : OffersNoMark first)
    (later : ∀ found, OffersNoMark (rest found)) :
    OffersNoMark (first >>= rest) := by
  intro fault refused
  rcases bind_eq_error_iff.1 refused with refused | ⟨found, _, refused⟩
  · exact here fault refused
  · exact later found fault refused

end OffersNoMark

theorem offersNoMark_scanName (input : Text) : OffersNoMark (scanName input) := by
  intro fault refused
  unfold scanName at refused
  dsimp only at refused
  split at refused
  · rename_i found faulty
    cases refused
    unfold nameFault? at faulty
    split at faulty
    · cases faulty
      rfl
    · split at faulty
      · split at faulty
        · cases faulty
        · cases faulty
          rfl
      · cases faulty
        rfl
  · cases refused

theorem offersNoMark_scanColonName (input : Text) : OffersNoMark (scanColonName input) := by
  unfold scanColonName
  split
  · exact (offersNoMark_scanName _).bind fun _ => .ok
  · exact .ok

theorem offersNoMark_scanAllowed (values : List Text) (current input : Text) :
    OffersNoMark (scanAllowed values current input) := by
  induction input generalizing values current with
  | nil =>
    rintro fault ⟨⟩
    rfl
  | cons c rest inductionHypothesis =>
    unfold scanAllowed
    split
    · exact .ok
    · split
      · rintro fault ⟨⟩
        rfl
      · split
        · split
          · rintro fault ⟨⟩
            rfl
          · exact inductionHypothesis _ _
        · exact inductionHypothesis _ _

theorem offersNoMark_scanOptionalAllowed (input : Text) :
    OffersNoMark (scanOptionalAllowed input) := by
  unfold scanOptionalAllowed
  split
  · exact (offersNoMark_scanAllowed _ _ _).bind fun _ => .ok
  · exact .ok

theorem offersNoMark_closeCapture (input : Text) : OffersNoMark (closeCapture input) := by
  unfold closeCapture
  split
  · exact .ok
  · rintro fault ⟨⟩
    rfl

theorem offersNoMark_scanSegments (first : Char) (more : Text) :
    OffersNoMark (scanSegments (first :: more)) := by
  intro fault refused
  rw [scanSegments_cons] at refused
  split at refused
  · cases refused
    rfl
  · split at refused
    · cases refused
    · cases refused
      rfl
    · cases refused

theorem offersNoMark_scanInside (body : Text) : OffersNoMark (scanInside body) := by
  cases body with
  | nil =>
    rintro fault ⟨⟩
    rfl
  | cons first rest =>
    rw [scanInside]
    split
    · exact (offersNoMark_scanColonName rest).bind fun _ => .ok
    · split
      · exact (offersNoMark_scanSegments first rest).bind fun _ =>
          (offersNoMark_scanColonName _).bind fun _ => .ok
      · split
        · exact (offersNoMark_scanName (first :: rest)).bind fun _ =>
            (offersNoMark_scanOptionalAllowed _).bind fun _ => .ok
        · exact (offersNoMark_scanOptionalAllowed (first :: rest)).bind fun _ => .ok

theorem offersNoMark_scanCaptureBody (body : Text) : OffersNoMark (scanCaptureBody body) := by
  rw [scanCaptureBody_eq]
  exact (offersNoMark_scanInside body).bind fun _ =>
    (offersNoMark_closeCapture _).bind fun _ => .ok

/-! ## Where no token begins -/

/-- Where no token begins, a reader offers what its state would accept outside of groups. -/
theorem scanToken_of_startsNoToken {state : State} {input : Text} (body : state.zone.isBody = true)
    (nothing : startsNoToken input = true) :
    scanToken state input =
      .error (.fault { expected := state.expected false, rest := input }) := by
  have elsewhere := State.awaits_of_isBody body
  unfold startsNoToken at nothing
  split at nothing
  · simp [scanToken, elsewhere, startsWithCapture, scanLiteral, isReserved]
  · cases nothing
  · rename_i rest single
    have empty : (scanLiteral ('}' :: rest)).1 = [] := by
      rw [scanLiteral]
      · rfl
      · simp
      · exact fun more _ same => single more same
    simp [scanToken, elsewhere, startsWithCapture, empty]
  · cases nothing

/-- What begins neither a token nor a group is one of two characters. -/
theorem startsNoToken_of_scanLiteral {c : Char} {rest : Text} (plain : isGroupMark c = false)
    (unmarked : isPartMark c = false) (unslashed : c ≠ '/')
    (uncaptured : startsWithCapture (c :: rest) = false)
    (empty : (scanLiteral (c :: rest)).1 = []) :
    startsNoToken (c :: rest) = true := by
  unfold scanLiteral at empty
  split at empty
  · simp at empty
  · simp at empty
  · rename_i unopened unclosed same
    cases same
    split at empty
    · rename_i reserved
      have marks : c = '=' ∨ c = '{' ∨ c = '}' := by
        simp only [isReserved, List.contains_cons, List.contains_nil, Bool.or_false,
          Bool.or_eq_true, beq_iff_eq] at reserved
        simp only [isGroupMark, isPartMark, List.contains_cons, List.contains_nil, Bool.or_false,
          Bool.or_eq_false_iff, beq_eq_false_iff_ne, decide_eq_false_iff_not] at plain unmarked
        grind
      rcases marks with rfl | rfl | rfl
      · rfl
      · unfold startsWithCapture at uncaptured
        split at uncaptured
        · rename_i doubled
          cases doubled
          exact absurd rfl (unopened _ rfl)
        · cases uncaptured
        · rename_i _ single
          exact absurd rfl (single rest)
      · unfold startsNoToken
        split
        · rfl
        · rename_i doubled
          cases doubled
          exact absurd rfl (unclosed _ rfl)
        · rfl
        · rename_i _ _ single
          exact absurd rfl (single rest)
    · simp at empty
  · rename_i absurdity
    cases absurdity

theorem offersNoMark_scanToken {state : State} {c : Char} {rest : Text}
    (body : state.zone.isBody = true) (plain : isGroupMark c = false)
    (begins : startsNoToken (c :: rest) = false) :
    OffersNoMark (scanToken state (c :: rest)) := by
  have elsewhere := State.awaits_of_isBody body
  unfold scanToken
  dsimp only
  rw [elsewhere, Bool.false_and, if_neg Bool.false_ne_true]
  split
  · exact .ok
  split
  · exact .ok
  split
  · exact .ok
  split
  · exact .ok
  split
  · exact .ok
  rename_i question ampersand hash stop slash
  split
  · exact (offersNoMark_scanCaptureBody rest).bind fun _ => .ok
  · rename_i uncaptured
    split
    · rename_i empty
      have unmarked : isPartMark c = false := by
        simp [isPartMark, question, ampersand, hash, stop]
      rw [startsNoToken_of_scanLiteral plain unmarked slash (Bool.eq_false_iff.2 uncaptured) empty]
        at begins
      cases begins
    · exact .ok

/-! ## What is offered inside of groups -/

/-- A token that a group does not take is a fault with nothing offered that groups do not hold. -/
theorem Level.expected_of_take {level : Level} {token : Token} {input : Text} {fault : Fault}
    (refused : level.take token true input = .error (.fault fault)) :
    fault.expected = level.state.expected true := by
  unfold Level.take at refused
  split at refused
  · cases refused
    rfl
  · split at refused
    · cases refused
      rfl
    · cases refused

theorem Position.inGroup_of_ne_nil {position : Position} (inside : position.outers ≠ []) :
    position.inGroup = true := by
  rw [inGroup, Bool.not_eq_true', List.isEmpty_eq_false_iff]
  exact inside

/-- Inside of groups the reader stays in the body around them. -/
theorem Reaches.isBody {seen : Text} {position : Position} (reaches : Reaches seen position)
    (inside : position.outers ≠ []) :
    position.level.state.zone.isBody = true := by
  induction reaches with
  | start => exact absurd rfl inside
  | @token _ _ position _ token next before _ _ _ unmarked stepped inductionHypothesis =>
    replace inside : position.outers ≠ [] := inside
    have body := inductionHypothesis inside
    rw [Position.inGroup_of_ne_nil inside, Bool.true_and] at unmarked
    obtain ⟨follows, _, rfl⟩ := (State.step_eq_ok_iff before.isSound.regular).1 stepped
    obtain ⟨zone, follows⟩ := Option.isSome_iff_exists.1 follows
    obtain ⟨_, rfl⟩ := Zone.isBodyToken_of_after? follows body unmarked
    show (State.move _ _).zone.isBody = true
    rw [State.zone_move follows]
    exact body
  | @opening _ position before opened _ =>
    have body := (State.takes_group_iff .nil before.isSound.regular).1 opened
    show position.level.state.enterGroup.zone.isBody = true
    rw [State.zone_enterGroup body]
    exact body
  | @closing _ position outer outers next before waiting _ stepped _ =>
    obtain ⟨regular, body⟩ := before.isSound.waits waiting
    obtain ⟨follows, _, rfl⟩ := (State.step_eq_ok_iff regular).1 stepped
    obtain ⟨zone, follows⟩ := Option.isSome_iff_exists.1 follows
    obtain ⟨_, rfl⟩ := Zone.after?_group_eq_some_iff.1 follows
    show (State.move _ _).zone.isBody = true
    rw [State.zone_move follows]
    exact body

/-- Inside of a group the reader offers marks of parts just where no token begins. What it offers
there is what its state would accept outside of groups. -/
theorem Position.Halts.offersMark_eq {position : Position} {rest : Text} {fault : Fault}
    (halts : position.Halts rest (.fault fault)) (inside : position.outers ≠ [])
    (regular : position.level.state.IsRegular) (body : position.level.state.zone.isBody = true) :
    offersMark fault.expected = startsNoToken rest ∧
      (startsNoToken rest = true →
        fault = { expected := position.level.state.expected false, rest }) := by
  cases halts with
  | blank outside => exact absurd outside inside
  | unclosed => exact ⟨State.offersMark_expected_inGroup _, nofun⟩
  | stray outside => exact absurd outside inside
  | hollow => exact ⟨rfl, nofun⟩
  | opening refused =>
    obtain ⟨next, stepped⟩ := (State.takes_group_iff .nil regular).2 body
    rw [stepped] at refused
    cases refused
  | @lexeme c rest _ plain refused =>
    cases begins : startsNoToken (c :: rest) with
    | true =>
      rw [scanToken_of_startsNoToken body begins] at refused
      cases refused
      exact ⟨State.offersMark_expected_of_isBody body, fun _ => rfl⟩
    | false => exact ⟨offersNoMark_scanToken body plain begins fault refused, nofun⟩
  | @token c rest _ token _ plain scanned refused =>
    have begins : startsNoToken (c :: rest) = false := by
      rw [Bool.eq_false_iff]
      intro nothing
      rw [scanToken_of_startsNoToken body nothing] at scanned
      cases scanned
    rw [Position.inGroup_of_ne_nil inside] at refused
    rw [begins, Level.expected_of_take refused]
    exact ⟨State.offersMark_expected_inGroup _, nofun⟩

/-- Reading a text, the reader comes to a position with the rest of the text behind it, and halts
there. -/
def Position.IsLast (position : Position) (text rest : Text) (fault : Fault) : Prop :=
  ∃ seen, seen ++ rest = text ∧ Reaches seen position ∧ position.Leaves rest ∧
    position.Halts rest (.fault fault)

end TypedRoutes.Pattern

namespace TypedRoutes

open TypedRoutes.Pattern

/-- Every diagnosis is that of a position in its text where the reader halts. If groups are open at
the position, the diagnosis offers marks of parts just where no token begins: with an equals sign or
a closing brace that is not doubled. There it offers what the state accepts outside of groups, the
stop among it, and not the end of the group. -/
theorem Pattern.offersMark_of_read {text : Text} {diagnosis : Diagnosis}
    (refused : Pattern.read text = .error (.malformed diagnosis)) :
    (∃ position rest fault, Position.IsLast position text rest fault) ∧
      ∀ position rest fault, Position.IsLast position text rest fault →
        diagnosis = fault.diagnosis text 0 text ∧
          (position.outers ≠ [] →
            offersMark diagnosis.expected = startsNoToken rest ∧
              (startsNoToken rest = true →
                diagnosis.reason = none ∧
                  diagnosis.expected = position.level.state.expected false ∧
                    .stop ∈ diagnosis.expected ∧ .groupClose ∉ diagnosis.expected)) := by
  constructor
  · obtain ⟨refusal, stops, located⟩ := Pattern.read_eq_error_iff.1 refused
    cases refusal with
    | number error => cases located
    | fault fault =>
      obtain ⟨seen, rest, position, whole, reaches, leaves, halts⟩ := stops
      exact ⟨position, rest, fault, seen, whole, reaches, leaves, halts⟩
  · rintro position rest fault ⟨seen, whole, reaches, leaves, halts⟩
    have again : Pattern.read text = .error (.malformed (fault.diagnosis text 0 text)) :=
      Pattern.read_eq_error_iff.2
        ⟨.fault fault, ⟨seen, rest, position, whole, reaches, leaves, halts⟩, rfl⟩
    obtain rfl : diagnosis = fault.diagnosis text 0 text := by
      rw [refused] at again
      exact PatternError.malformed.inj (Except.error.inj again)
    refine ⟨rfl, fun inside => ?_⟩
    have body := reaches.isBody inside
    obtain ⟨offers, exactly⟩ := halts.offersMark_eq inside reaches.isSound.regular body
    refine ⟨offers, fun nothing => ?_⟩
    rw [exactly nothing]
    exact ⟨rfl, rfl, State.expected_of_isBody body⟩

/-- An equals sign where a group has just been opened behind a literal. -/
theorem Pattern.exists_isLast_group :
    ∃ position : Position, position.outers ≠ [] ∧
      position.IsLast "/a(=".toList ['=']
        { expected := State.expected ⟨.path, some (.item (.literal ['a']))⟩ false
          rest := ['='] } := by
  have slash : scanToken .initial ['/'] = .ok (.slash, []) := by decide
  have literal : scanToken ⟨.path, some (.item .slash)⟩ ['a'] = .ok (.literal ['a'], []) := by
    decide
  have behindSlash := Reaches.start.whole rfl slash (fun inLiteral => by cases inLiteral) rfl rfl
  have behindLiteral := behindSlash.whole rfl literal (fun inLiteral => by cases inLiteral) rfl rfl
  have entered := behindLiteral.opening ⟨_, rfl⟩
  exact ⟨_, List.cons_ne_nil _ _, _, rfl, entered, (fun inLiteral => by cases inLiteral),
    .lexeme rfl rfl⟩

theorem Pattern.read_equals_in_group :
    Pattern.read "/a(=".toList =
      .error (.malformed
        { reason := none
          expected := State.expected ⟨.path, some (.item (.literal ['a']))⟩ false
          offset := 3
          pattern := "/a(=".toList
          badChar := none }) := by
  cbv

/-- The law at an equals sign in a group. -/
theorem Pattern.offersMark_of_read_group :
    ∃ diagnosis, Pattern.read "/a(=".toList = .error (.malformed diagnosis) ∧
      ∃ position fault, Position.IsLast position "/a(=".toList ['='] fault ∧
        position.outers ≠ [] ∧ offersMark diagnosis.expected = startsNoToken ['='] ∧
          .stop ∈ diagnosis.expected ∧ .groupClose ∉ diagnosis.expected := by
  obtain ⟨position, inside, last⟩ := Pattern.exists_isLast_group
  obtain ⟨offers, told⟩ :=
    ((Pattern.offersMark_of_read Pattern.read_equals_in_group).2 position _ _ last).2 inside
  exact ⟨_, Pattern.read_equals_in_group, position, _, last, inside, offers, (told rfl).2.2⟩

/-- Whether no mark of a part is offered by the diagnosis of a text that is refused inside of a
group. -/
def OffersNoMarkInGroups (text : Text) : Prop :=
  ∀ diagnosis, Pattern.read text = .error (.malformed diagnosis) →
    ∀ (position : Position) (rest : Text) (fault : Fault), position.IsLast text rest fault →
      position.outers ≠ [] → ∀ kind ∈ diagnosis.expected, kind ∉ partMarks

/-- The stop is offered at an equals sign in a group. -/
theorem not_offersNoMarkInGroups : ¬ OffersNoMarkInGroups "/a(=".toList := by
  intro never
  obtain ⟨position, inside, last⟩ := Pattern.exists_isLast_group
  exact never _ Pattern.read_equals_in_group position _ _ last inside .stop (by decide) (by decide)

end TypedRoutes
