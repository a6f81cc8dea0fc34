import TypedRoutes.Proofs.Pattern.Approach
import TypedRoutes.Proofs.Pattern.Neighbours
import TypedRoutes.Proofs.Pattern.Retained

/-!
Contract: what the text around a position shows of what has been read.

A lexeme need not be the text of its token, but it ends in the same character, and it begins in the
same one unless it is a literal or a pair. So the characters right before a position tell of what
the reader remembers there: a closing bracket of the group before, a mark of the part that has
begun. Opened groups and closed ones put brackets between a token and the position, but leave the
token as the one before.

Owns: the ends of lexemes, the last character that is no bracket, and what is seen before a
position.
-/

set_option autoImplicit false

namespace TypedRoutes.Pattern

open TypedRoutes.Text

/-! ## The ends of lexemes -/

theorem getLast?_escapeBraces (text : Text) :
    (escapeBraces text).getLast? = text.getLast? := by
  induction text using List.reverseRecOn with
  | nil => rfl
  | append_singleton front last _ =>
    rw [escapeBraces, List.flatMap_append, List.getLast?_append, List.getLast?_append]
    by_cases brace : last = '{' ∨ last = '}'
    · simp [brace]
    · simp [brace]

/-- A literal that is read to the end of a text ends as the text does. -/
theorem getLast?_of_scanLiteral {input literal : Text}
    (scanned : scanLiteral input = (literal, [])) :
    literal.getLast? = input.getLast? := by
  have kept := escapeBraces_scanLiteral input
  rw [scanned, List.append_nil] at kept
  rw [← kept, getLast?_escapeBraces]

theorem getLast?_source (block : Capture) : block.source.getLast? = some '}' := by
  rw [Capture.source, List.getLast?_append]
  rfl

theorem getLast?_of_scanCaptureBody {body : Text} {block : Capture}
    (scanned : scanCaptureBody body = .ok (block, [])) :
    body.getLast? = some '}' := by
  rw [scanCaptureBody_eq] at scanned
  obtain ⟨⟨found, after⟩, inside, scanned⟩ := bind_eq_ok_iff.1 scanned
  obtain ⟨behind, closed, returned⟩ := bind_eq_ok_iff.1 scanned
  cases returned
  obtain ⟨lexeme, rfl, _⟩ := exists_lexeme_of_scanInside inside
  unfold closeCapture at closed
  split at closed
  · cases closed
    rw [List.getLast?_append]
    rfl
  · cases closed

theorem getLast?_source_of_scanPair {input : Text} {token : Token}
    (scanned : scanPair input = .ok (token, [])) :
    token.source.getLast? = input.getLast? := by
  unfold scanPair at scanned
  dsimp only at scanned
  split at scanned
  · rename_i value afterKey
    have kept := escapeBraces_scanLiteral input
    rw [afterKey] at kept
    split at scanned
    · cases scanned
    · split at scanned
      · rename_i capture
        obtain ⟨⟨block, after⟩, found, scanned⟩ := bind_eq_ok_iff.1 scanned
        dsimp only at scanned
        split at scanned
        · cases scanned
          obtain ⟨body, rfl⟩ := exists_of_startsWithCapture capture
          have closing : body.getLast? = some '}' := getLast?_of_scanCaptureBody found
          rw [← kept, Token.source, List.getLast?_append, List.getLast?_append]
          simp [List.getLast?_cons, getLast?_source, closing]
        · cases scanned
      · split at scanned
        · cases scanned
        · obtain ⟨rfl, ended⟩ := Prod.mk.inj (Except.ok.inj scanned)
          have literal : (scanLiteral value).1.getLast? = value.getLast? :=
            getLast?_of_scanLiteral (Prod.ext rfl ended)
          rw [← kept, Token.source, List.getLast?_append, List.getLast?_append]
          simp [List.getLast?_cons, literal]
  · cases scanned

theorem getLast?_source_of_scanToken {state : State} {c : Char} {input : Text} {token : Token}
    (scanned : scanToken state (c :: input) = .ok (token, [])) :
    token.source.getLast? = (c :: input).getLast? := by
  rcases scanToken_cons state c with ⟨_, written, _, _, law, _⟩ | ⟨_, law⟩ | ⟨_, law⟩
  · rw [law] at scanned
    cases scanned
    rw [written]
  · rw [law] at scanned
    exact getLast?_source_of_scanPair scanned
  · rw [law] at scanned
    split at scanned
    · obtain ⟨⟨block, after⟩, found, returned⟩ := bind_eq_ok_iff.1 scanned
      cases returned
      rw [Token.source, getLast?_source, List.getLast?_cons, getLast?_of_scanCaptureBody found]
      rfl
    · split at scanned
      · cases scanned
      · obtain ⟨rfl, ended⟩ := Prod.mk.inj (Except.ok.inj scanned)
        rw [Token.source, getLast?_escapeBraces]
        exact getLast?_of_scanLiteral (Prod.ext rfl ended)

/-- The text of a token begins as the lexeme does, unless literals run on from it. -/
theorem head?_source_of_scanToken {state : State} {c : Char} {input rest : Text} {token : Token}
    (scanned : scanToken state (c :: input) = .ok (token, rest)) (apart : token.runsOn = false) :
    token.source.head? = some c := by
  rcases scanToken_cons state c with ⟨_, written, _, _, law, _⟩ | ⟨_, law⟩ | ⟨_, law⟩
  · rw [law] at scanned
    cases scanned
    rw [written]
    rfl
  · rw [law] at scanned
    rw [(exists_lexeme_of_scanPair scanned).1] at apart
    cases apart
  · rw [law] at scanned
    split at scanned
    · rename_i capture
      obtain ⟨⟨block, after⟩, _, returned⟩ := bind_eq_ok_iff.1 scanned
      cases returned
      obtain ⟨_, same⟩ := exists_of_startsWithCapture capture
      rw [(List.cons.inj same).1]
      rfl
    · split at scanned
      · cases scanned
      · cases scanned
        cases apart

theorem exists_last_of_isPlain {text : Text} (plain : IsPlain text) :
    ∃ c, text.getLast? = some c ∧ isGroupMark c = false ∧ isPartMark c = false := by
  have free := plain.2 _ (List.getLast_mem plain.1)
  simp only [isBarred, List.contains_eq_mem, List.mem_cons, List.not_mem_nil, or_false,
    decide_eq_false_iff_not, not_or] at free
  exact ⟨_, List.getLast?_eq_getLast_of_ne_nil plain.1, by simp [isGroupMark, free],
    by simp [isPartMark, free]⟩

/-- No token ends in a bracket, and only the mark of a part ends in one. -/
theorem exists_last_of_isSound {token : Token} (sound : token.IsSound) :
    ∃ c, token.source.getLast? = some c ∧ isGroupMark c = false ∧
      (isPartMark c = true → token.isPartMark = true) := by
  cases token with
  | slash => exact ⟨'/', rfl, rfl, fun marked => by cases marked⟩
  | question | ampersand | hash | stop => exact ⟨_, rfl, rfl, fun _ => rfl⟩
  | literal text =>
    obtain ⟨c, last, unmarked, free⟩ := exists_last_of_isPlain sound
    exact ⟨c, by rw [Token.source, getLast?_escapeBraces, last], unmarked, by simp [free]⟩
  | capture block => exact ⟨'}', getLast?_source block, rfl, fun marked => by cases marked⟩
  | pair key value =>
    cases value with
    | literal text =>
      obtain ⟨c, last, unmarked, free⟩ := exists_last_of_isPlain sound.2
      refine ⟨c, ?_, unmarked, by simp [free]⟩
      simp [Token.source, List.getLast?_append, List.getLast?_cons, last]
    | capture block =>
      refine ⟨'}', ?_, rfl, fun marked => by cases marked⟩
      simp [Token.source, List.getLast?_append, List.getLast?_cons, getLast?_source]
  | fixed text => cases sound

/-! ## Brackets -/

/-- The last character of a text that neither opens nor closes a group. -/
def lastPlain? (text : Text) : Option Char :=
  (text.filter fun c => !isGroupMark c).getLast?

theorem lastPlain?_append_bracket {c : Char} (seen : Text) (bracket : isGroupMark c = true) :
    lastPlain? (seen ++ [c]) = lastPlain? seen := by
  simp [lastPlain?, bracket]

theorem lastPlain?_append {more : Text} {c : Char} (seen : Text) (last : more.getLast? = some c)
    (plain : isGroupMark c = false) :
    lastPlain? (seen ++ more) = some c := by
  obtain ⟨front, rfl⟩ := List.getLast?_eq_some_iff.1 last
  simp [lastPlain?, plain]

/-- The token at the very end of a level is the one that the state after its last element has
before it. -/
theorem last?_push (level : Level) (state : State) (element : Element Token) :
    (level.push element (state.move element)).elements.last? = (state.move element).last? := by
  have nonempty (others : Pattern) : others ++ Grouped.single element ≠ .nil := by
    cases others <;> cases element <;> simp [Grouped.single, Grouped.cons]
  show (level.elements ++ Grouped.single element).last? = _
  induction level.elements with
  | nil => cases element <;> rfl
  | item token rest inductionHypothesis =>
    rw [Grouped.item_append, Grouped.last?, inductionHypothesis]
    exact nonempty rest
  | group inner rest _ inductionHypothesis =>
    rw [Grouped.group_append, Grouped.last?, inductionHypothesis]
    exact nonempty rest

/-! ## Zones -/

namespace Zone

def isQuery : Zone → Bool
  | .awaiting | .paired => true
  | _ => false

theorem isQuery_of_isBody {zone : Zone} (body : zone.isBody = true) : zone.isQuery = false := by
  cases zone <;> simp_all [isBody, isQuery]

theorem isQuery_of_after? {zone next : Zone} {token : Token}
    (follows : zone.after? (.item token) = some next) (later : token ≠ .question)
    (queried : next.isQuery = true) :
    zone.isQuery = true := by
  cases zone <;> cases token <;> simp_all [isQuery]
  all_goals
    subst follows
    cases queried

end Zone

/-- A step leads from zone to zone. -/
theorem State.after?_of_step {state next : State} {element : Element Token}
    (regular : state.IsRegular) (stepped : state.step element = .ok next) :
    state.zone.after? element = some next.zone := by
  obtain ⟨follows, _, rfl⟩ := (State.step_eq_ok_iff regular).1 stepped
  obtain ⟨zone, follows⟩ := Option.isSome_iff_exists.1 follows
  rw [State.zone_move follows, follows]

/-! ## What is seen before a position -/

namespace Reaches

variable {seen : Text} {position : Position}

/-- A lexeme ends as the text of its token, and not in a bracket. -/
theorem exists_last {state : State} {lexeme : Text} {c : Char} {token : Token} (seen : Text)
    (scanned : ∀ rest, scanToken state (c :: (lexeme ++ rest)) = .ok (token.goOn rest)) :
    token.IsSound ∧ ∃ last, token.source.getLast? = some last ∧
      (seen ++ c :: lexeme).getLast? = some last ∧
        lastPlain? (seen ++ c :: lexeme) = some last := by
  have alone := scanned []
  rw [List.append_nil, Token.goOn_eq_iff.2 fun _ => rfl] at alone
  have sound := scanToken_isSound alone
  obtain ⟨last, ends, plain, _⟩ := exists_last_of_isSound sound
  have lexemeEnds : (c :: lexeme).getLast? = some last :=
    (getLast?_source_of_scanToken alone).symm.trans ends
  refine ⟨sound, last, ends, ?_, lastPlain?_append seen lexemeEnds plain⟩
  rw [List.getLast?_append, lexemeEnds]
  rfl

/-- Once something has been read on a level, the token before is the one at the end of it. -/
theorem last?_eq (reaches : Reaches seen position) (begun : position.level.elements ≠ .nil) :
    position.level.state.last? = position.level.elements.last? := by
  cases reaches with
  | start => exact absurd rfl begun
  | token before _ _ _ _ stepped =>
    obtain ⟨_, _, rfl⟩ := (State.step_eq_ok_iff before.isSound.regular).1 stepped
    exact (last?_push _ _ _).symm
  | opening => exact absurd rfl begun
  | @closing _ position outer _ _ before waiting _ stepped =>
    obtain ⟨regular, _⟩ := before.isSound.waits waiting
    obtain ⟨_, _, rfl⟩ := (State.step_eq_ok_iff regular).1 stepped
    exact (last?_push outer outer.state (.group position.level.elements)).symm

/-- The token before a position ends in the last character before it that is no bracket. -/
theorem lastPlain?_eq (reaches : Reaches seen position) :
    ∀ token ∈ position.level.state.last?, lastPlain? seen = token.source.getLast? := by
  induction reaches with
  | start => nofun
  | @token seen _ _ _ _ _ before _ scanned _ _ stepped _ =>
    obtain ⟨_, _, rfl⟩ := (State.step_eq_ok_iff before.isSound.regular).1 stepped
    rintro _ ⟨⟩
    obtain ⟨_, _, ends, _, plainEnds⟩ := exists_last seen scanned
    exact plainEnds.trans ends.symm
  | opening _ _ inductionHypothesis =>
    rw [lastPlain?_append_bracket _ rfl]
    rwa [← State.last?_enterGroup] at inductionHypothesis
  | @closing _ _ outer _ _ before waiting nonempty stepped inductionHypothesis =>
    obtain ⟨regular, _⟩ := before.isSound.waits waiting
    obtain ⟨_, _, rfl⟩ := (State.step_eq_ok_iff regular).1 stepped
    rw [lastPlain?_append_bracket _ rfl]
    rwa [before.last?_eq nonempty] at inductionHypothesis

/-- Behind a group its closing bracket is seen. -/
theorem getLast?_of_isGroup (reaches : Reaches seen position)
    (behind : isGroup position.level.state.previous = true) :
    seen.getLast? = some ')' := by
  cases reaches with
  | start => cases behind
  | token before _ _ _ _ stepped =>
    obtain ⟨_, _, rfl⟩ := (State.step_eq_ok_iff before.isSound.regular).1 stepped
    cases behind
  | @opening _ position =>
    have alone : isGroup position.enter.level.state.previous = false := State.isGroup_enterGroup _
    rw [alone] at behind
    cases behind
  | closing => exact List.getLast?_concat

/-- Right behind the opening of a group its opening bracket is seen. -/
theorem getLast?_of_fresh (reaches : Reaches seen position) (inside : position.outers ≠ [])
    (empty : position.level.elements = .nil) :
    seen.getLast? = some '(' := by
  cases reaches with
  | start => exact absurd rfl inside
  | token => exact absurd empty (Level.push_elements_ne_nil _ _ _)
  | opening => exact List.getLast?_concat
  | closing => exact absurd empty (Level.push_elements_ne_nil _ _ _)

/-- A position in a group is in a body, and so is the one right behind a group. -/
theorem isBody_of_enter (reaches : Reaches seen position)
    (opened : position.level.state.Takes (.group .nil)) :
    position.enter.level.state.zone.isBody = true := by
  have body := (State.takes_group_iff .nil reaches.isSound.regular).1 opened
  show position.level.state.enterGroup.zone.isBody = true
  rwa [State.zone_enterGroup body]

theorem isBody_of_leave {outer : Level} {outers : List Level} {next : State}
    (reaches : Reaches seen position) (waiting : position.outers = outer :: outers)
    (stepped : outer.state.step (.group position.level.elements) = .ok next) :
    next.zone.isBody = true := by
  obtain ⟨regular, body⟩ := reaches.isSound.waits waiting
  obtain ⟨_, same⟩ := Zone.after?_group_eq_some_iff.1 (State.after?_of_step regular stepped)
  rwa [same]

/-- A position is in a body, with nothing or a bracket before it, or a token leads to its zone and
ends in the last character seen. -/
theorem isBody_or_exists_token (reaches : Reaches seen position) :
    (position.level.state.zone.isBody = true ∧ ∀ c ∈ seen.getLast?, isGroupMark c = true) ∨
      ∃ (token : Token) (zone : Zone),
        zone.after? (.item token) = some position.level.state.zone ∧ token.IsSound ∧
          token.source.getLast? = seen.getLast? := by
  cases reaches with
  | start => exact .inl ⟨rfl, nofun⟩
  | @token seen _ position _ token next before _ scanned _ _ stepped =>
    obtain ⟨sound, _, ends, seenEnds, _⟩ := exists_last seen scanned
    have follows := State.after?_of_step before.isSound.regular stepped
    exact .inr ⟨token, _, follows, sound, ends.trans seenEnds.symm⟩
  | opening before opened =>
    refine .inl ⟨before.isBody_of_enter opened, ?_⟩
    rw [List.getLast?_concat]
    rintro _ ⟨⟩
    rfl
  | closing before waiting _ stepped =>
    refine .inl ⟨before.isBody_of_leave waiting stepped, ?_⟩
    rw [List.getLast?_concat]
    rintro _ ⟨⟩
    rfl

/-- Behind the end of a pattern its mark is seen. -/
theorem getLast?_of_finished (reaches : Reaches seen position)
    (finished : position.level.state.zone = .finished) :
    seen.getLast? = some '!' := by
  rcases reaches.isBody_or_exists_token with ⟨body, _⟩ | ⟨token, zone, follows, _, ends⟩
  · rw [finished] at body
    cases body
  · obtain rfl : token = .stop := by
      rw [finished] at follows
      cases zone <;> cases token <;> simp_all
    exact ends.symm

/-- A pair has to come just where a mark of the query is the last that is seen. -/
theorem zone_eq_awaiting_iff (reaches : Reaches seen position) :
    position.level.state.zone = .awaiting ↔
      seen.getLast? = some '?' ∨ seen.getLast? = some '&' := by
  rcases reaches.isBody_or_exists_token with ⟨body, bracket⟩ | ⟨token, zone, follows, sound, ends⟩
  · constructor
    · intro awaits
      rw [awaits] at body
      cases body
    · rintro (last | last)
      · cases bracket '?' last
      · cases bracket '&' last
  · rw [← ends]
    constructor
    · intro awaits
      rw [awaits] at follows
      cases zone <;> cases token <;> simp_all [Token.source]
    · intro last
      obtain ⟨c, isLast, _, marks⟩ := exists_last_of_isSound sound
      rw [isLast] at last
      have marked : token.isPartMark = true := by
        rcases last with last | last <;> cases last <;> exact marks rfl
      cases token with
      | question | ampersand => cases zone <;> simp_all
      | hash | stop =>
        cases isLast
        rcases last with last | last <;> cases last
      | _ => cases marked

theorem question_mem (reaches : Reaches seen position)
    (queried : position.level.state.zone.isQuery = true) :
    '?' ∈ seen := by
  induction reaches with
  | start => cases queried
  | @token seen _ _ _ token next before _ scanned _ _ stepped inductionHypothesis =>
    by_cases begins : token = .question
    · obtain ⟨_, _, ends, seenEnds, _⟩ := exists_last seen scanned
      rw [begins] at ends
      exact List.mem_of_getLast? (seenEnds.trans ends.symm)
    · have follows := State.after?_of_step before.isSound.regular stepped
      have earlier := Zone.isQuery_of_after? follows begins queried
      exact List.mem_append_left _ (inductionHypothesis earlier)
  | opening before opened =>
    have body := before.isBody_of_enter opened
    rw [Zone.isQuery_of_isBody body] at queried
    cases queried
  | @closing _ _ _ _ next before waiting _ stepped =>
    have body := before.isBody_of_leave waiting stepped
    have queried : next.zone.isQuery = true := queried
    rw [Zone.isQuery_of_isBody body] at queried
    cases queried

end Reaches

end TypedRoutes.Pattern
