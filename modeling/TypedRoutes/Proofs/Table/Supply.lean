import TypedRoutes.Proofs.Matching.Progress
import TypedRoutes.Proofs.Pattern.Grammar
import TypedRoutes.Proofs.Table.Writing

/-!
Contract: what is written for texts that captures can take.

Captures without groups around them are written in order, each with a text of its own. If these are
legal texts, whatever is written is a trace of the pattern; and it is written unless a capture
admits other texts only.

Owns: legal texts, texts supplied in order, and their writing.
-/

set_option autoImplicit false

namespace TypedRoutes.Table

open TypedRoutes.Text TypedRoutes.Pattern TypedRoutes.Program TypedRoutes.Matching

/-! ## Legal texts -/

/-- The texts that stand for as many segments as a capture spans. -/
def IsLegal (block : Capture) (text : Text) : Prop :=
  match block.extent with
  | .one => text ≠ [] ∧ ∀ c ∈ text, isCaptureChar false c = true
  | .many => ∀ c ∈ text, isCaptureChar true c = true
  | .exactly segments =>
    ∃ parts : List Text,
      text = join ['/'] parts ∧ parts.length = segments.toNat ∧
        ∀ part ∈ parts, part ≠ [] ∧ ∀ c ∈ part, isCaptureChar false c = true

def isLast : Pattern → Bool
  | .nil => true
  | .item .stop _ => true
  | _ => false

/-- Legal texts for the captures of a pattern in order. Only the last of them can be empty. -/
inductive Admits : Pattern → List Text → Prop
  | nil : Admits .nil []
  | other {token : Token} {rest : Pattern} {texts : List Text} :
    token.capture? = none →
    Admits rest texts →
    Admits (.item token rest) texts
  | capture {token : Token} {block : Capture} {rest : Pattern} {text : Text} {more : List Text} :
    token.capture? = some block →
    IsLegal block text →
    (text = [] → isLast rest = true) →
    Admits rest more →
    Admits (.item token rest) (text :: more)

theorem Admits.of_other {token : Token} {rest : Pattern} {texts : List Text}
    (admits : Admits (.item token rest) texts) (uncaptured : token.capture? = none) :
    Admits rest texts := by
  cases admits with
  | other _ later => exact later
  | capture own =>
    rw [uncaptured] at own
    cases own

theorem Admits.of_capture {token : Token} {block : Capture} {rest : Pattern} {texts : List Text}
    (admits : Admits (.item token rest) texts) (captured : token.capture? = some block) :
    ∃ text more, texts = text :: more ∧ IsLegal block text ∧
      (text = [] → isLast rest = true) ∧ Admits rest more := by
  cases admits with
  | other uncaptured =>
    rw [uncaptured] at captured
    cases captured
  | capture own legal ending later =>
    cases own.symm.trans captured
    exact ⟨_, _, rfl, legal, ending, later⟩

/-- A legal text is made of leading segments, each with a slash behind it, and a last one. -/
theorem exists_segments_of_isLegal {block : Capture} {text : Text} (sound : block.IsSound)
    (legal : IsLegal block text) :
    ∃ (leading : List Text) (last : Text),
      text = join ['/'] (leading ++ [last]) ∧
        leading.length = (block.segments - 1).toNat ∧
          (∀ segment ∈ leading, segment ≠ [] ∧ ∀ c ∈ segment, isCaptureChar false c = true) ∧
            (∀ c ∈ last, isCaptureChar block.isMany c = true) ∧
              (block.isMany = true → leading = []) ∧
                (last = [] → block.isMany = true ∧ text = []) := by
  obtain ⟨extent, name, options⟩ := block
  cases extent with
  | one =>
    obtain ⟨nonempty, inside⟩ := legal
    exact ⟨[], text, rfl, rfl, by simp, inside, nofun, fun empty => absurd empty nonempty⟩
  | many => exact ⟨[], text, rfl, rfl, by simp, legal, fun _ => rfl, fun empty => ⟨rfl, empty⟩⟩
  | exactly segments =>
    obtain ⟨parts, joined, count, solid⟩ := legal
    obtain ⟨positive, _⟩ := sound.counted segments rfl
    have nonempty : parts ≠ [] := by
      rintro rfl
      simp only [List.length_nil] at count
      omega
    have split := List.dropLast_append_getLast nonempty
    obtain ⟨some, inside⟩ := solid _ (List.getLast_mem nonempty)
    refine ⟨parts.dropLast, parts.getLast nonempty, ?_, ?_, ?_, inside, nofun,
      fun empty => absurd empty some⟩
    · rw [split, joined]
    · rw [List.length_dropLast, count]
      simp only [Capture.segments]
      omega
    · exact fun part member => solid part (List.dropLast_subset parts member)

/-- What is made of leading segments and a last one is legal, if only a capture of any number of
segments can have an empty one. -/
theorem isLegal_of_segments {block : Capture} {text : Text} {leading : List Text} {last : Text}
    (counted : ∀ segments, block.extent = .exactly segments → 1 ≤ segments)
    (joined : text = join ['/'] (leading ++ [last]))
    (count : leading.length = (block.segments - 1).toNat)
    (solid : ∀ segment ∈ leading, segment ≠ [] ∧ ∀ c ∈ segment, isCaptureChar false c = true)
    (inside : ∀ c ∈ last, isCaptureChar block.isMany c = true)
    (empty : last = [] → block.isMany = true) :
    IsLegal block text := by
  obtain ⟨extent, name, options⟩ := block
  have alone (zero : leading.length = 0) : text = last := by
    rw [joined, List.eq_nil_of_length_eq_zero zero]
    rfl
  cases extent with
  | one =>
    have nonempty : last ≠ [] := fun nothing => by cases empty nothing
    rw [alone count]
    exact ⟨nonempty, inside⟩
  | many =>
    rw [alone count]
    exact inside
  | exactly segments =>
    have nonempty : last ≠ [] := fun nothing => by cases empty nothing
    have positive : 1 ≤ segments := counted segments rfl
    have length : leading.length = (segments - 1).toNat := count
    refine ⟨leading ++ [last], joined, ?_, ?_⟩
    · rw [List.length_append, List.length_singleton]
      omega
    · intro part member
      rcases List.mem_append.1 member with before | final
      · exact solid part before
      · rw [List.mem_singleton.1 final]
        exact ⟨nonempty, inside⟩

theorem isLegal_of_capture? {fold : Bool} {block : Capture} {stops : Stops} {cursor next : Cursor}
    {text : Text} (counted : ∀ segments, block.extent = .exactly segments → 1 ≤ segments)
    (captured : capture? fold block stops cursor = some (text, next)) :
    IsLegal block text := by
  obtain ⟨_, _, _, leading, last, joined, count, solid, inside, empty⟩ :=
    segments_of_capture? captured
  exact isLegal_of_segments counted joined count solid inside fun nothing => (empty nothing).1

/-- A legal text is one that the capture takes, if it may be empty there. -/
theorem takes_of_isLegal {block : Capture} {text left : Text} (sound : block.IsSound)
    (legal : IsLegal block text) (allowed : isAllowed false block.allowed text = true)
    (ending : text = [] → left = []) :
    Takes block text left := by
  obtain ⟨leading, last, joined, count, solid, inside, _, empty⟩ :=
    exists_segments_of_isLegal sound legal
  refine ⟨allowed, leading, last, joined, count, solid, inside, ?_⟩
  intro nothing
  obtain ⟨many, whole⟩ := empty nothing
  exact ⟨many, ending whole⟩

/-! ## Texts in order -/

namespace Filling

variable {filling : Filling} {used : Nat} {texts : List Text}

/-- The captures contribute the texts, one after the other. -/
def Feeds (filling : Filling) : List Capture → List Text → Nat → Prop
  | [], [], _ => True
  | block :: blocks, text :: texts, used =>
    ∃ next, filling.contribution block used = .ok (.text text, next) ∧
      filling.Feeds blocks texts next
  | _, _, _ => False

theorem feeds_of_named {blocks : List Capture} {textOf : Capture → Text}
    (named : filling.layout = .named)
    (each : ∀ block ∈ blocks, ∃ name, block.name = some name ∧
      Mapping.get? filling.fields name = some (.text (textOf block)))
    (used : Nat) :
    filling.Feeds blocks (blocks.map textOf) used := by
  induction blocks with
  | nil => trivial
  | cons block rest inductionHypothesis =>
    obtain ⟨⟨name, known, found⟩, later⟩ := List.forall_mem_cons.1 each
    refine ⟨used, ?_, inductionHypothesis later⟩
    simp [contribution, named, known, found]

theorem feeds_of_positional {blocks : List Capture} (positional : filling.layout = .positional)
    (count : blocks.length = texts.length)
    (listed : (filling.fields.drop used).map (·.2) = texts.map .text) :
    filling.Feeds blocks texts used := by
  induction blocks generalizing used texts with
  | nil =>
    obtain rfl : texts = [] := List.eq_nil_of_length_eq_zero count.symm
    trivial
  | cons block rest inductionHypothesis =>
    cases texts with
    | nil => cases count
    | cons text others =>
      cases left : filling.fields.drop used with
      | nil =>
        rw [left] at listed
        cases listed
      | cons field later =>
        obtain ⟨name, written⟩ := field
        rw [left, List.map_cons, List.map_cons, List.cons.injEq] at listed
        obtain ⟨rfl, further⟩ := listed
        have found : filling.fields[used]? = some (name, .text text) := by
          rw [← List.head?_drop, left]
          rfl
        have behind : filling.fields.drop (used + 1) = later := by
          rw [← List.drop_drop, left]
          rfl
        rw [← behind] at further
        refine ⟨used + 1, ?_, inductionHypothesis (Nat.succ.inj count) further⟩
        simp [contribution, positional, found]

/-! ## Writing -/

/-- A text is written for a capture that admits it, and for no other. -/
theorem writeCapture_of_contribution {block : Capture} {text : Text} {next : Nat}
    (contributed : filling.contribution block used = .ok (.text text, next)) :
    filling.writeCapture block used =
      if isAllowed false block.allowed text = true then .ok (text, next)
      else .error (.error (.notAllowed text (block.allowed.getD []) filling.pattern)) := by
  unfold writeCapture
  rw [contributed]
  cases listed : block.allowed with
  | none => rfl
  | some options => simp [isAllowed]

theorem write_item_eq_ok_iff {token : Token} {rest : Pattern} {written : Text} {last : Nat} :
    filling.write (.item token rest) used = .ok (written, last) ↔
      ∃ text next more, filling.writeToken token used = .ok (text, next) ∧
        filling.write rest next = .ok (more, last) ∧ written = text ++ more := by
  rw [write]
  cases filling.writeToken token used with
  | error halt => simp
  | ok found =>
    obtain ⟨text, next⟩ := found
    dsimp only
    rw [map_eq_ok_iff]
    constructor
    · rintro ⟨⟨more, after⟩, further, same⟩
      cases same
      exact ⟨text, next, more, rfl, further, rfl⟩
    · rintro ⟨_, _, more, same, further, rfl⟩
      cases same
      exact ⟨(more, last), further, rfl⟩

theorem captures_item (token : Token) (rest : Pattern) :
    Pattern.captures (.item token rest) = token.capture?.toList ++ Pattern.captures rest := by
  cases found : token.capture? <;> simp [Pattern.captures, Grouped.flatten, found]

theorem captures_group (inner rest : Pattern) :
    Pattern.captures (.group inner rest) = Pattern.captures inner ++ Pattern.captures rest :=
  List.filterMap_append

theorem eq_nil_of_stop {rest : Pattern}
    (before : ∀ after ∈ rest.flatten, Token.stop.mayPrecede after = true)
    (admits : Admits rest texts) :
    rest = .nil := by
  cases rest with
  | nil => rfl
  | item token others =>
    have impossible := before token List.mem_cons_self
    simp [Token.mayPrecede] at impossible
  | group inner others => cases admits

theorem eq_nil_of_isLast {rest : Pattern} {filled : List (Capture × Option Text)} {more : Text}
    (last : isLast rest = true) (trace : Trace tokenPiece rest filled more []) :
    more = [] := by
  cases trace with
  | nil => rfl
  | taken => cases last
  | skipped => cases last
  | @fixed token others _ _ _ _ is =>
    cases token with
    | stop => cases is
    | _ => cases last
  | @capture token others _ _ _ _ _ _ is =>
    cases token with
    | stop => cases is
    | _ => cases last
  | stop _ ended _ => simpa using ended

theorem isSound_of_tokenPiece {token : Token} {ahead : Text} {block : Capture}
    (sound : token.IsSound) (is : tokenPiece token = .capture ahead block) :
    block.IsSound := by
  cases token with
  | capture other =>
    cases is
    exact sound
  | pair key value =>
    cases value with
    | capture other =>
      cases is
      exact sound.2.1
    | literal text => cases is
  | _ => cases is

/-- Whatever is written of legal texts is a trace of the pattern. -/
theorem trace_of_write {pattern : Pattern} {written : Text} {last : Nat}
    (sound : ∀ token ∈ pattern.flatten, token.IsSound)
    (ordered : pattern.flatten.Pairwise fun before after => before.mayPrecede after = true)
    (admits : Admits pattern texts) (fed : filling.Feeds pattern.captures texts used)
    (wrote : filling.write pattern used = .ok (written, last)) :
    Trace tokenPiece pattern (pattern.captures.zip (texts.map some)) written [] := by
  induction pattern generalizing texts used written with
  | nil =>
    cases admits
    cases wrote
    exact .nil
  | group inner rest => cases admits
  | item token rest inductionHypothesis =>
    obtain ⟨tokenSound, restSound⟩ := List.forall_mem_cons.1 sound
    obtain ⟨before, restOrdered⟩ := List.pairwise_cons.1 ordered
    obtain ⟨text, next, more, first, further, rfl⟩ := write_item_eq_ok_iff.1 wrote
    rw [captures_item] at fed ⊢
    cases is : tokenPiece token with
    | fixed fixed =>
      have own := capture?_eq_none_of_tokenPiece is
      have denoted := tokenSound.ne_fixed
      rw [writeToken_of_fixed is denoted] at first
      cases first
      rw [own] at fed ⊢
      exact .fixed is (inductionHypothesis restSound restOrdered (admits.of_other own) fed further)
    | stop =>
      obtain rfl := eq_stop_of_tokenPiece is
      cases first
      have later := admits.of_other rfl
      obtain rfl := eq_nil_of_stop before later
      cases further
      cases later
      exact .stop is rfl .nil
    | capture ahead block =>
      have own := capture?_eq_of_tokenPiece is
      rw [own] at fed ⊢
      obtain ⟨taken, others, rfl, legal, ending, later⟩ := admits.of_capture own
      obtain ⟨after, contributed, fedLater⟩ := fed
      rw [writeToken_of_capture is, writeCapture_of_contribution contributed] at first
      split at first
      · rename_i allowed
        cases first
        have remaining := inductionHypothesis restSound restOrdered later fedLater further
        have takes : Takes block taken (more ++ []) :=
          takes_of_isLegal (isSound_of_tokenPiece tokenSound is) legal allowed fun empty => by
            rw [eq_nil_of_isLast (ending empty) remaining]
            rfl
        rw [List.append_assoc]
        exact .capture is takes remaining
      · cases first

/-- Texts that the captures admit are written. -/
theorem exists_write {pattern : Pattern} (sound : ∀ token ∈ pattern.flatten, token.IsSound)
    (admits : Admits pattern texts) (fed : filling.Feeds pattern.captures texts used)
    (allowed : ∀ pair ∈ pattern.captures.zip texts, isAllowed false pair.1.allowed pair.2 = true) :
    ∃ written last, filling.write pattern used = .ok (written, last) := by
  induction pattern generalizing texts used with
  | nil => exact ⟨[], used, rfl⟩
  | group inner rest => cases admits
  | item token rest inductionHypothesis =>
    obtain ⟨tokenSound, restSound⟩ := List.forall_mem_cons.1 sound
    rw [captures_item] at fed allowed
    cases is : tokenPiece token with
    | fixed fixed =>
      have own := capture?_eq_none_of_tokenPiece is
      have denoted := tokenSound.ne_fixed
      rw [own] at fed allowed
      obtain ⟨more, last, wrote⟩ :=
        inductionHypothesis restSound (admits.of_other own) fed allowed
      exact ⟨_, last, write_item_eq_ok_iff.2
        ⟨fixed, used, more, writeToken_of_fixed is denoted used, wrote, rfl⟩⟩
    | stop =>
      obtain rfl := eq_stop_of_tokenPiece is
      obtain ⟨more, last, wrote⟩ :=
        inductionHypothesis restSound (admits.of_other rfl) fed allowed
      exact ⟨_, last, write_item_eq_ok_iff.2 ⟨[], used, more, rfl, wrote, rfl⟩⟩
    | capture ahead block =>
      have captured := capture?_eq_of_tokenPiece is
      rw [captured] at fed allowed
      obtain ⟨taken, others, rfl, _, _, later⟩ := admits.of_capture captured
      obtain ⟨after, contributed, fedLater⟩ := fed
      obtain ⟨own, restAllowed⟩ := List.forall_mem_cons.1 allowed
      obtain ⟨more, last, wrote⟩ := inductionHypothesis restSound later fedLater restAllowed
      have first : filling.writeToken token used = .ok (ahead ++ taken, after) := by
        rw [writeToken_of_capture is, writeCapture_of_contribution contributed, if_pos own]
        rfl
      exact ⟨_, last, write_item_eq_ok_iff.2 ⟨_, after, more, first, wrote, rfl⟩⟩

end Filling

end TypedRoutes.Table
