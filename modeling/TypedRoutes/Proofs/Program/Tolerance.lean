import TypedRoutes.Program.Stops
import TypedRoutes.Proofs.Matching.Progress
import TypedRoutes.Proofs.Pattern.Soundness

/-!
Contract: where tolerated slashes come between the pieces of a program.

A program with tolerated slashes differs from the one without them in two places: fixed text is cut
where the path ends before a mark, and a slash follows groups that come last. A capture in front of
such fixed text has a shorter stop, a capture in front of such groups has the slash as one more.
Everywhere else captures have the same stops in both programs.

Owns: these places, and the stops of both programs there. Does not own: what captures take.
-/

set_option autoImplicit false

namespace TypedRoutes.Program

open TypedRoutes.Pattern TypedRoutes.Matching

/-! ## Places -/

def isLiteral : Token → Bool
  | .literal _ => true
  | _ => false

/-- Whether the mark of a query or of a fragment comes first. -/
def startsWithMark : Pattern → Bool
  | .item .question _ | .item .hash _ => true
  | _ => false

def endsInGroups (pattern : Pattern) : Bool :=
  !pattern.isEmpty && isAllGroups pattern

/-- The fixed text in front of a pattern, if it goes as far as the end of the path and a literal is
last before the mark there. -/
def runToMark? : Pattern → Option Text
  | .nil | .group _ _ => none
  | .item token rest =>
    match tokenPiece token with
    | .fixed text =>
      if isLiteral token && startsWithMark rest then some text
      else if startsWithMark (.item token .nil) then none
      else (runToMark? rest).map (text ++ ·)
    | _ => none

def fragmentOf : Pattern → Pattern
  | .nil => .nil
  | .item .hash rest => rest
  | .item _ rest => fragmentOf rest
  | .group _ rest => fragmentOf rest

/-- Whether a capture of many segments stands right before groups that come last. -/
def hasManyBeforeGroups : Pattern → Bool
  | .nil => false
  | .item token rest =>
    (token.capture?.any (·.isMany) && endsInGroups rest) || hasManyBeforeGroups rest
  | .group _ rest => hasManyBeforeGroups rest

/-- A pattern in which tolerated slashes change no stop that matters: no literal stands before a
mark, and no capture of many segments before groups that come last. -/
def IsUntouched : Pattern → Prop
  | .nil => True
  | .item token rest =>
    (isLiteral token = true → startsWithMark rest = false) ∧
      (∀ block ∈ token.capture?, block.isMany = true → endsInGroups rest = false) ∧
        IsUntouched rest
  | .group _ rest => IsUntouched rest

def IsUntouchedBehind : Pattern → Prop
  | .nil => True
  | .item .question rest | .item .hash rest | .item .stop rest => IsUntouched rest
  | .item _ rest => IsUntouchedBehind rest
  | .group _ rest => IsUntouched rest

/-! ## Runs of fixed text -/

/-- Whether a slash is tolerated behind a token. -/
def isTolerant (marked : Bool) (token : Token) (rest : Pattern) : Bool :=
  !marked && isLiteral token && endsPath rest

def isMarkedBy (marked : Bool) (token : Token) : Bool :=
  marked || startsWithMark (.item token .nil)

theorem isMarkedBy_of_isTolerant {marked : Bool} {token : Token} {rest : Pattern}
    (tolerant : isTolerant marked token rest = true) :
    isMarkedBy marked token = marked := by
  simp only [isTolerant, Bool.and_eq_true] at tolerant
  obtain ⟨⟨_, literal⟩, _⟩ := tolerant
  cases token with
  | literal => simp [isMarkedBy, startsWithMark]
  | _ => cases literal

/-- A token of fixed text goes into the run, which ends where a slash is tolerated. -/
theorem assemble_of_fixed {token : Token} {fixed : Text} (sound : token.IsSound)
    (is : tokenPiece token = .fixed fixed) (slash marked : Bool) (run : Option Text)
    (rest : Pattern) :
    assemble slash marked run (.item token rest) =
      if slash && isTolerant marked token rest then
        flush (extend run fixed) (optionalSlash (assemble slash marked none rest))
      else assemble slash (isMarkedBy marked token) (extend run fixed) rest := by
  unfold isTolerant isMarkedBy
  cases token with
  | literal text =>
    cases is
    simp [assemble, isLiteral, startsWithMark, Bool.and_assoc]
  | fixed => exact sound.elim
  | pair key value =>
    cases value with
    | literal =>
      cases is
      simp [assemble, isLiteral, startsWithMark]
    | capture => cases is
  | capture => cases is
  | stop => cases is
  | _ =>
    cases is
    simp [assemble, isLiteral, startsWithMark]

/-- A capture ends a run that has begun, with its key as the last of it. -/
theorem assemble_some_of_capture {token : Token} {ahead : Text} {block : Capture}
    (is : tokenPiece token = .capture ahead block) (slash marked : Bool) (text : Text)
    (rest : Pattern) :
    assemble slash marked (some text) (.item token rest) =
      flush (some (text ++ ahead)) (.item (.capture block) (assemble slash marked none rest)) := by
  obtain ⟨next, ⟨begun, goesOn⟩, same⟩ :=
    exists_assemble_of_capture is slash marked (some text) rest
  obtain ⟨whole, rfl⟩ := Option.isSome_iff_exists.1 (goesOn rfl)
  have begun : whole = text ++ ahead := begun
  rw [same, begun]

theorem endsPath_of_startsWithMark {pattern : Pattern} (marks : startsWithMark pattern = true) :
    endsPath pattern = true := by
  cases pattern with
  | item token rest => cases token <;> first | rfl | cases marks
  | _ => cases marks

theorem eq_nil_or_startsWithMark {pattern : Pattern} (ends : endsPath pattern = true) :
    pattern = .nil ∨ startsWithMark pattern = true := by
  cases pattern with
  | nil => exact .inl rfl
  | item token rest => cases token <;> first | exact .inr rfl | cases ends
  | group => cases ends

/-- If no literal stands before a mark, a slash is tolerated at the very end only. -/
theorem eq_nil_of_isTolerant {marked : Bool} {token : Token} {fixed : Text} {rest : Pattern}
    (is : tokenPiece token = .fixed fixed)
    (apart : marked = true ∨ runToMark? (.item token rest) = none)
    (tolerant : isTolerant marked token rest = true) :
    rest = .nil := by
  simp only [isTolerant, Bool.and_eq_true, Bool.not_eq_true'] at tolerant
  obtain ⟨⟨unmarked, literal⟩, ends⟩ := tolerant
  rcases eq_nil_or_startsWithMark ends with ended | marks
  · exact ended
  · rcases apart with already | missed
    · rw [unmarked] at already
      cases already
    · simp [runToMark?, is, literal, marks] at missed

/-- A mark that has gone by, or the lack of a literal before one, is the same behind fixed text. -/
theorem isMarkedBy_or_runToMark?_eq_none {marked : Bool} {token : Token} {fixed : Text}
    {rest : Pattern} (is : tokenPiece token = .fixed fixed)
    (apart : marked = true ∨ runToMark? (.item token rest) = none) :
    isMarkedBy marked token = true ∨ runToMark? rest = none := by
  unfold isMarkedBy
  rcases apart with already | missed
  · exact .inl (by simp [already])
  · simp only [runToMark?, is] at missed
    split at missed
    · cases missed
    · split at missed
      · rename_i mark
        exact .inl (by simp [mark])
      · exact .inr (Option.map_eq_none_iff.1 missed)

/-- Where no literal in a run stands before a mark, both programs begin with the same text. -/
theorem exists_same_fixed {marked : Bool} {pattern : Pattern}
    (sound : ∀ token ∈ pattern.flatten, token.IsSound)
    (apart : marked = true ∨ runToMark? pattern = none) (text : Text) :
    ∃ whole strict tolerant,
      assemble false marked (some text) pattern = .item (.fixed whole) strict ∧
        assemble true marked (some text) pattern = .item (.fixed whole) tolerant := by
  induction pattern generalizing marked text with
  | nil => exact ⟨text, _, _, rfl, rfl⟩
  | group inner rest => exact ⟨text, _, _, rfl, rfl⟩
  | item token rest inductionHypothesis =>
    obtain ⟨own, others⟩ := List.forall_mem_cons.1 sound
    cases is : tokenPiece token with
    | fixed fixed =>
      rw [assemble_of_fixed own is, assemble_of_fixed own is]
      by_cases tolerant : isTolerant marked token rest = true
      · have ended : rest = .nil := eq_nil_of_isTolerant is apart tolerant
        subst ended
        rw [if_neg (by simp), if_pos (by simpa using tolerant)]
        exact ⟨text ++ fixed, _, _, rfl, rfl⟩
      · rw [if_neg (by simp), if_neg (by simpa using tolerant)]
        apply inductionHypothesis others
        exact isMarkedBy_or_runToMark?_eq_none is apart
    | capture ahead block =>
      rw [assemble_some_of_capture is, assemble_some_of_capture is]
      exact ⟨text ++ ahead, _, _, rfl, rfl⟩
    | stop =>
      obtain rfl := eq_stop_of_tokenPiece is
      exact ⟨text, _, _, rfl, rfl⟩

/-- Where a literal in a run stands before a mark, the program with tolerated slashes begins with
the text up to the mark only. -/
theorem exists_fixed_of_runToMark? {pattern : Pattern} {run : Text}
    (sound : ∀ token ∈ pattern.flatten, token.IsSound) (found : runToMark? pattern = some run)
    (text : Text) :
    ∃ more strict tolerant,
      assemble false false (some text) pattern = .item (.fixed (text ++ run ++ more)) strict ∧
        assemble true false (some text) pattern = .item (.fixed (text ++ run)) tolerant := by
  induction pattern generalizing text run with
  | nil => cases found
  | group inner rest => cases found
  | item token rest inductionHypothesis =>
    obtain ⟨own, others⟩ := List.forall_mem_cons.1 sound
    cases is : tokenPiece token with
    | fixed fixed =>
      rw [assemble_of_fixed own is, assemble_of_fixed own is, if_neg (by simp)]
      simp only [runToMark?, is] at found
      split at found
      · rename_i here
        cases found
        obtain ⟨literal, marks⟩ : isLiteral token = true ∧ startsWithMark rest = true := by
          simpa using here
        have tolerant : isTolerant false token rest = true := by
          simp [isTolerant, literal, endsPath_of_startsWithMark marks]
        obtain ⟨more, strict, begun⟩ :=
          exists_fixed_of_assemble false (isMarkedBy false token) (text ++ run) rest
        rw [if_pos (by simpa using tolerant)]
        exact ⟨more, strict, _, begun, rfl⟩
      · rename_i missed
        split at found
        · cases found
        · rename_i unmarked
          obtain ⟨later, further, rfl⟩ := Option.map_eq_some_iff.1 found
          have plain : isTolerant false token rest = false := by
            rw [Bool.eq_false_iff]
            intro tolerant
            simp only [isTolerant, Bool.and_eq_true] at tolerant
            rcases eq_nil_or_startsWithMark tolerant.2 with rfl | marks
            · cases further
            · simp [tolerant.1.2, marks] at missed
          have still : isMarkedBy false token = false := by
            simpa [isMarkedBy] using unmarked
          rw [if_neg (by simp [plain]), still, ← List.append_assoc]
          exact inductionHypothesis others further (text ++ fixed)
    | capture ahead block => simp [runToMark?, is] at found
    | stop => simp [runToMark?, is] at found

/-! ## Stops -/

/-- How the stops of a capture before a pattern differ in a program with tolerated slashes. -/
inductive Widens (pattern : Pattern) (strict tolerant : Stops) : Prop where
  | same (apart : runToMark? pattern = none) (others : endsInGroups pattern = false)
      (equal : tolerant = strict)
  | shorter {run more : Text} (found : runToMark? pattern = some run)
      (others : endsInGroups pattern = false) (long : strict = ⟨[run ++ more], false⟩)
      (short : tolerant = ⟨[run], false⟩)
  | slash {texts : List Text} (apart : runToMark? pattern = none)
      (ends : endsInGroups pattern = true) (opened : strict = ⟨texts, true⟩)
      (more : tolerant = ⟨texts ++ [['/']], true⟩)

theorem runToMark?_eq_none {pattern : Pattern} (untouched : IsUntouched pattern) :
    runToMark? pattern = none := by
  induction pattern with
  | nil => rfl
  | group => rfl
  | item token rest inductionHypothesis =>
    obtain ⟨literal, _, others⟩ := untouched
    unfold runToMark?
    split
    · split
      · rename_i marks
        simp only [Bool.and_eq_true] at marks
        simp [literal marks.1] at marks
      · split
        · rfl
        · rw [inductionHypothesis others]
          rfl
    · rfl

theorem assemble_none_of_fixed {token : Token} {fixed : Text} (sound : token.IsSound)
    (is : tokenPiece token = .fixed fixed) (slash marked : Bool) (rest : Pattern) :
    assemble slash marked none (.item token rest) =
      assemble slash marked (some []) (.item token rest) := by
  rw [assemble_of_fixed sound is, assemble_of_fixed sound is]
  rfl

theorem widens_of_item {marked : Bool} {token : Token} {rest : Pattern}
    (sound : ∀ item ∈ Grouped.flatten (.item token rest), item.IsSound)
    (apart : marked = false ∨ runToMark? (.item token rest) = none) :
    Widens (.item token rest) (stops (assemble false marked none (.item token rest)))
      (stops (assemble true marked none (.item token rest))) := by
  have own : token.IsSound := (List.forall_mem_cons.1 sound).1
  cases is : tokenPiece token with
  | fixed fixed =>
    rw [assemble_none_of_fixed own is, assemble_none_of_fixed own is]
    cases found : runToMark? (.item token rest) with
    | none =>
      obtain ⟨whole, strict, tolerant, first, second⟩ := exists_same_fixed sound (.inr found) []
      rw [first, second]
      exact .same found rfl rfl
    | some run =>
      obtain rfl : marked = false := by
        rcases apart with unmarked | missed
        · exact unmarked
        · rw [found] at missed
          cases missed
      obtain ⟨more, strict, tolerant, first, second⟩ := exists_fixed_of_runToMark? sound found []
      rw [first, second]
      exact .shorter found rfl rfl rfl
  | capture ahead block =>
    refine .same (by simp [runToMark?, is]) rfl ?_
    cases token with
    | capture => rfl
    | pair key value =>
      cases value with
      | capture => rfl
      | literal => cases is
    | _ => cases is
  | stop =>
    obtain rfl := eq_stop_of_tokenPiece is
    exact .same rfl rfl rfl

theorem stops_of_group {rest : Pattern} (goesOn : rest.isEmpty = false) (slash marked : Bool)
    (inner : Pattern) :
    stops (assemble slash marked none (.group inner rest)) =
      ⟨(firstFixed? (assemble false false none inner)).toList ++
          (stops (assemble slash marked none rest)).texts,
        (stops (assemble slash marked none rest)).isOpen⟩ := by
  simp [assemble, flush, stops, goesOn]

/-- Behind a capture, groups that come last bring one more stop, and nothing else does. -/
theorem widens_of_isUntouched {marked : Bool} {pattern : Pattern}
    (sound : ∀ token ∈ pattern.flatten, token.IsSound) (untouched : IsUntouched pattern) :
    Widens pattern (stops (assemble false marked none pattern))
      (stops (assemble true marked none pattern)) := by
  induction pattern with
  | nil => exact .same rfl rfl rfl
  | item token rest => exact widens_of_item sound (.inr (runToMark?_eq_none untouched))
  | group inner rest _ inductionHypothesis =>
    have inside : ∀ token ∈ rest.flatten, token.IsSound :=
      fun token member => sound token (List.mem_append_right _ member)
    by_cases ended : rest = .nil
    · subst ended
      have opened : stops (assemble false marked none (.group inner .nil)) =
          ⟨(firstFixed? (assemble false false none inner)).toList, true⟩ := by
        simp [assemble, flush, stops]
      exact .slash rfl rfl opened rfl
    · have goesOn : rest.isEmpty = false := by
        cases rest with
        | nil => exact absurd rfl ended
        | _ => rfl
      have front : endsInGroups (.group inner rest) = endsInGroups rest := by
        unfold endsInGroups
        rw [goesOn]
        rfl
      have restUntouched : IsUntouched rest := untouched
      rw [stops_of_group goesOn, stops_of_group goesOn]
      cases inductionHypothesis inside restUntouched with
      | same apart others equal =>
        rw [equal]
        exact .same rfl (front.trans others) rfl
      | shorter found =>
        rw [runToMark?_eq_none restUntouched] at found
        cases found
      | slash apart ends opened more =>
        rw [opened, more, ← List.append_assoc]
        exact .slash rfl (front.trans ends) rfl rfl

theorem widens_of_isUntouchedBehind {pattern : Pattern}
    (sound : ∀ token ∈ pattern.flatten, token.IsSound) (behind : IsUntouchedBehind pattern) :
    Widens pattern (stops (assemble false false none pattern))
      (stops (assemble true false none pattern)) := by
  cases pattern with
  | nil => exact .same rfl rfl rfl
  | item token rest => exact widens_of_item sound (.inl rfl)
  | group inner rest =>
    have untouched : IsUntouched (.group inner rest) := behind
    exact widens_of_isUntouched sound untouched

/-! ## Patterns that are read -/

theorem isUntouched_of_other {token : Token} {rest : Pattern} (other : isLiteral token = false)
    (single : ∀ block ∈ token.capture?, block.isMany = false) (untouched : IsUntouched rest) :
    IsUntouched (.item token rest) := by
  refine ⟨?_, ?_, untouched⟩
  · intro literal
    rw [other] at literal
    cases literal
  · intro block own many
    rw [single block own] at many
    cases many

theorem isUntouched_of_uncapturing {token : Token} {rest : Pattern}
    (other : isLiteral token = false) (uncapturing : token.capture? = none)
    (untouched : IsUntouched rest) :
    IsUntouched (.item token rest) := by
  apply isUntouched_of_other other _ untouched
  intro block own
  rw [uncapturing] at own
  cases own

theorem isMany_eq_false_of_pair {key : Text} {value : PairValue}
    (sound : (Token.pair key value).IsSound) :
    ∀ block ∈ (Token.pair key value).capture?, block.isMany = false := by
  intro block own
  cases value with
  | literal => cases own
  | capture other =>
    cases own
    obtain ⟨_, _, single⟩ := sound
    simp [Capture.isMany, single]

theorem startsWithMark_append {body other : Pattern} (fits : IsBody false body)
    (unmarked : startsWithMark other = false) :
    startsWithMark (body ++ other) = false := by
  cases body with
  | nil => exact unmarked
  | group => rfl
  | item token rest =>
    obtain ⟨own, _⟩ := fits
    cases token <;> first | rfl | cases own

theorem startsWithMark_ending (parts : Parts) : startsWithMark parts.ending = false := by
  unfold Parts.ending
  split <;> rfl

theorem isUntouched_ending (parts : Parts) : IsUntouched parts.ending := by
  unfold Parts.ending
  by_cases stopped : parts.isStopped = true
  · rw [if_pos stopped]
    exact isUntouched_of_uncapturing rfl rfl trivial
  · rw [if_neg stopped]
    trivial

theorem isUntouched_of_fragment {body : Pattern} (parts : Parts) (fits : IsBody false body)
    (single : hasManyBeforeGroups (body ++ parts.ending) = false) :
    IsUntouched (body ++ parts.ending) := by
  induction body with
  | nil => exact isUntouched_ending parts
  | group inner rest _ inductionHypothesis => exact inductionHypothesis fits.2.2.2 single
  | item token rest inductionHypothesis =>
    obtain ⟨_, _, others⟩ := fits
    rw [Grouped.item_append, hasManyBeforeGroups, Bool.or_eq_false_iff] at single
    refine ⟨fun _ => startsWithMark_append others (startsWithMark_ending parts), ?_,
      inductionHypothesis others single.2⟩
    intro block own many
    have here := single.1
    rw [Option.mem_def.1 own, Option.any_some, many, Bool.true_and] at here
    exact here

theorem isUntouched_queryFrom {other : Pattern} {pairs : List (Text × PairValue)} {mark : Token}
    (isMark : mark = .question ∨ mark = .ampersand) (isOpen : Bool)
    (sound : ∀ token ∈ (queryFrom mark isOpen pairs).flatten, token.IsSound)
    (untouched : IsUntouched other) :
    IsUntouched (queryFrom mark isOpen pairs ++ other) := by
  have marked {rest : Pattern} (untouched : IsUntouched rest) :
      IsUntouched (.item mark rest) := by
    rcases isMark with rfl | rfl <;> exact isUntouched_of_uncapturing rfl rfl untouched
  induction pairs generalizing mark with
  | nil =>
    unfold queryFrom
    split
    · exact marked untouched
    · exact untouched
  | cons pair rest inductionHypothesis =>
    obtain ⟨_, own, others⟩ :
        mark.IsSound ∧ (Token.pair pair.1 pair.2).IsSound ∧
          ∀ token ∈ (queryFrom .ampersand isOpen rest).flatten, token.IsSound := by
      simpa [queryFrom, Grouped.flatten] using sound
    apply marked
    apply isUntouched_of_other rfl (isMany_eq_false_of_pair own)
    exact inductionHypothesis (.inr rfl) others (isUntouched_of_uncapturing rfl rfl)

theorem fragmentOf_append {body : Pattern} (fits : IsBody true body) (other : Pattern) :
    fragmentOf (body ++ other) = fragmentOf other := by
  induction body with
  | nil => rfl
  | group inner rest _ inductionHypothesis => exact inductionHypothesis fits.2.2.2
  | item token rest inductionHypothesis =>
    obtain ⟨own, _, others⟩ := fits
    cases token <;> first | exact inductionHypothesis others | cases own

theorem fragmentOf_queryFrom {mark : Token} (isMark : mark = .question ∨ mark = .ampersand)
    (isOpen : Bool) (pairs : List (Text × PairValue)) (other : Pattern) :
    fragmentOf (queryFrom mark isOpen pairs ++ other) = fragmentOf other := by
  induction pairs generalizing mark with
  | nil =>
    unfold queryFrom
    rcases isMark with rfl | rfl <;> split <;> rfl
  | cons pair rest inductionHypothesis =>
    have later := inductionHypothesis (.inr rfl)
    rcases isMark with rfl | rfl <;> exact later

theorem isUntouched_of_isAllGroups {body other : Pattern} (groups : isAllGroups body = true)
    (untouched : IsUntouched other) :
    IsUntouched (body ++ other) := by
  induction body with
  | nil => exact untouched
  | item => cases groups
  | group inner rest _ inductionHypothesis => exact inductionHypothesis groups

theorem isUntouchedBehind_of_isUntouched {pattern : Pattern} (untouched : IsUntouched pattern) :
    IsUntouchedBehind pattern := by
  induction pattern with
  | nil => trivial
  | group => exact untouched
  | item token rest inductionHypothesis =>
    obtain ⟨_, _, others⟩ := untouched
    cases token <;> first | exact others | exact inductionHypothesis others

theorem isUntouchedBehind_append {body other : Pattern} (fits : IsBody true body)
    (untouched : IsUntouched other) :
    IsUntouchedBehind (body ++ other) := by
  induction body with
  | nil => exact isUntouchedBehind_of_isUntouched untouched
  | group inner rest => exact isUntouched_of_isAllGroups fits.2.2.1 untouched
  | item token rest inductionHypothesis =>
    obtain ⟨own, _, others⟩ := fits
    cases token <;> first | exact inductionHypothesis others | cases own

/-- In a pattern that is read, slashes are tolerated in the path, and elsewhere only behind groups
that end the fragment. -/
theorem isUntouchedBehind_of_read {text : Text} {pattern : Pattern}
    (read : Pattern.read text = .ok pattern)
    (single : hasManyBeforeGroups (fragmentOf pattern) = false) :
    IsUntouchedBehind pattern := by
  have sound := Pattern.tokens_isSound_of_read read
  obtain ⟨parts, fits, rfl⟩ := Pattern.exists_parts_of_read read
  unfold Parts.pattern Parts.afterPath at *
  rw [fragmentOf_append fits.path, fragmentOf_queryFrom (.inl rfl)] at single
  have querySound : ∀ token ∈ (queryFrom .question parts.isOpen parts.pairs).flatten,
      token.IsSound := by
    intro token member
    apply sound token
    simp [member]
  have afterQuery : IsUntouched parts.afterQuery := by
    unfold Parts.afterQuery at single ⊢
    cases fragment : parts.fragment with
    | none => exact isUntouched_ending parts
    | some body =>
      rw [fragment] at single
      apply isUntouched_of_uncapturing rfl rfl
      exact isUntouched_of_fragment parts (fits.fragment body fragment) single
  have afterPath := isUntouched_queryFrom (.inl rfl) parts.isOpen querySound afterQuery
  exact isUntouchedBehind_append fits.path afterPath

end TypedRoutes.Program
