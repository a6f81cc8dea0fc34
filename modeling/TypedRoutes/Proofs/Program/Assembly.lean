import TypedRoutes.Program.Assembly
import TypedRoutes.Proofs.Matching.Trace

/-!
Contract: programs ask for the same pieces as the patterns they are assembled from.

Assembling puts neighbouring fixed texts together and leaves captures, groups and stops where they
are. A trace of a program without tolerated slashes is therefore a trace of its pattern.

Owns: the pieces of a pattern, and the passage from programs to patterns.
-/

set_option autoImplicit false

namespace TypedRoutes.Program

open TypedRoutes.Pattern TypedRoutes.Matching

/-- The pieces that a pattern is made of. Fixed text, which no pattern text denotes, leaves nothing
in a program. -/
def tokenPiece : Token → Piece
  | .slash => .fixed ['/']
  | .literal text => .fixed text
  | .capture block => .capture [] block
  | .question => .fixed ['?']
  | .ampersand => .fixed ['&']
  | .pair key (.literal value) => .fixed (key ++ '=' :: value)
  | .pair key (.capture block) => .capture (key ++ ['=']) block
  | .hash => .fixed ['#']
  | .stop => .stop
  | .fixed _ => .fixed []

theorem capture?_tokenPiece (token : Token) : (tokenPiece token).capture? = token.capture? := by
  cases token with
  | pair key value => cases value <;> rfl
  | _ => rfl

@[simp] theorem captures_capture (block : Capture) (program : Program) :
    Program.captures (.item (.capture block) program) = block :: program.captures := rfl

@[simp] theorem captures_stop (program : Program) :
    Program.captures (.item .stop program) = program.captures := rfl

@[simp] theorem captures_group (inner rest : Program) :
    Program.captures (.group inner rest) = inner.captures ++ rest.captures := by
  simp [captures, Grouped.flatten]

@[simp] theorem captures_flush (run : Option Text) (program : Program) :
    (flush run program).captures = program.captures := by
  cases run <;> rfl

@[simp] theorem captures_optionalSlash (program : Program) :
    (optionalSlash program).captures = program.captures := rfl

@[simp] theorem topCaptures_item (instruction : Instruction) (program : Program) :
    Program.topCaptures (.item instruction program) =
      instruction.capture?.toList ++ program.topCaptures := by
  cases instruction <;> rfl

@[simp] theorem topCaptures_group (inner rest : Program) :
    Program.topCaptures (.group inner rest) = rest.topCaptures := rfl

@[simp] theorem topCaptures_flush (run : Option Text) (program : Program) :
    (flush run program).topCaptures = program.topCaptures := by
  cases run <;> rfl

@[simp] theorem topCaptures_optionalSlash (program : Program) :
    (optionalSlash program).topCaptures = program.topCaptures := rfl

theorem eq_stop_of_tokenPiece {token : Token} (is : tokenPiece token = .stop) : token = .stop := by
  cases token with
  | pair key value => cases value <;> cases is
  | stop => rfl
  | _ => cases is

/-- A run that goes on from another one with more text. -/
def GoesOn (run : Option Text) (text : Text) (next : Option Text) : Prop :=
  next.getD [] = run.getD [] ++ text ∧ (run.isSome = true → next.isSome = true)

theorem goesOn_extend (run : Option Text) (text : Text) : GoesOn run text (extend run text) :=
  ⟨rfl, fun _ => rfl⟩

theorem goesOn_nil (run : Option Text) : GoesOn run [] run :=
  ⟨(List.append_nil _).symm, id⟩

/-- A token of fixed text goes into the run. The run ends behind it only where a slash is tolerated
at the end of a path. -/
theorem exists_assemble_of_fixed {token : Token} {fixed : Text}
    (is : tokenPiece token = .fixed fixed) (slash marked : Bool) (run : Option Text)
    (rest : Pattern) :
    ∃ next, GoesOn run fixed next ∧
      ((∃ later, assemble slash marked run (.item token rest) = assemble slash later next rest) ∨
        slash = true ∧ endsPath rest = true ∧
          assemble slash marked run (.item token rest) =
            flush next (optionalSlash (assemble slash marked none rest))) := by
  cases token with
  | slash | ampersand =>
    cases is
    exact ⟨_, goesOn_extend run _, .inl ⟨marked, rfl⟩⟩
  | question | hash =>
    cases is
    exact ⟨_, goesOn_extend run _, .inl ⟨true, rfl⟩⟩
  | literal text =>
    cases is
    refine ⟨_, goesOn_extend run _, ?_⟩
    by_cases ends : (slash && !marked && endsPath rest) = true
    · have tolerated : slash = true ∧ endsPath rest = true := by
        simp only [Bool.and_eq_true] at ends
        exact ⟨ends.1.1, ends.2⟩
      exact .inr ⟨tolerated.1, tolerated.2, if_pos ends⟩
    · exact .inl ⟨marked, if_neg ends⟩
  | fixed text =>
    cases is
    exact ⟨run, goesOn_nil run, .inl ⟨marked, rfl⟩⟩
  | pair key value =>
    cases value with
    | literal text =>
      cases is
      exact ⟨_, goesOn_extend run _, .inl ⟨marked, rfl⟩⟩
    | capture block => cases is
  | capture block => cases is
  | stop => cases is

theorem exists_assemble_of_capture {token : Token} {ahead : Text} {block : Capture}
    (is : tokenPiece token = .capture ahead block) (slash marked : Bool) (run : Option Text)
    (rest : Pattern) :
    ∃ next, GoesOn run ahead next ∧
      assemble slash marked run (.item token rest) =
        flush next (.item (.capture block) (assemble slash marked none rest)) := by
  cases token with
  | capture other =>
    cases is
    exact ⟨run, goesOn_nil run, rfl⟩
  | pair key value =>
    cases value with
    | capture other =>
      cases is
      exact ⟨_, goesOn_extend run _, rfl⟩
    | literal text => cases is
  | _ => cases is

theorem captures_assemble (slash marked : Bool) (run : Option Text) (pattern : Pattern) :
    (assemble slash marked run pattern).captures = pattern.captures := by
  induction pattern generalizing slash marked run with
  | nil => exact captures_flush run .nil
  | item token rest inductionHypothesis =>
    have later : Pattern.captures (.item token rest) =
        (tokenPiece token).capture?.toList ++ Pattern.captures rest := by
      rw [capture?_tokenPiece]
      cases found : token.capture? <;> simp [Pattern.captures, Grouped.flatten, found]
    rw [later]
    cases is : tokenPiece token with
    | fixed fixed =>
      obtain ⟨next, _, ⟨_, same⟩ | ⟨_, _, same⟩⟩ :=
        exists_assemble_of_fixed is slash marked run rest
      · rw [same, inductionHypothesis]
        rfl
      · rw [same, captures_flush, captures_optionalSlash, inductionHypothesis]
        rfl
    | capture ahead block =>
      obtain ⟨next, _, same⟩ := exists_assemble_of_capture is slash marked run rest
      rw [same, captures_flush, captures_capture, inductionHypothesis]
      rfl
    | stop =>
      obtain rfl := eq_stop_of_tokenPiece is
      rw [assemble, captures_flush, captures_stop, inductionHypothesis]
      rfl
  | group inner rest innerHypothesis inductionHypothesis =>
    have later : Pattern.captures (.group inner rest) =
        Pattern.captures inner ++ Pattern.captures rest := by
      simp [Pattern.captures, Grouped.flatten]
    rw [later, assemble, captures_flush, captures_group, innerHypothesis]
    split <;> simp [inductionHypothesis]

/-- Assembling leaves the captures outside of groups outside, whether a slash is tolerated or not. -/
theorem topCaptures_assemble (slash marked : Bool) (run : Option Text) (pattern : Pattern) :
    (assemble slash marked run pattern).topCaptures =
      pattern.topItems.filterMap Token.capture? := by
  induction pattern generalizing slash marked run with
  | nil => exact topCaptures_flush run .nil
  | item token rest inductionHypothesis =>
    have later : (Grouped.item token rest).topItems.filterMap Token.capture? =
        (tokenPiece token).capture?.toList ++ rest.topItems.filterMap Token.capture? := by
      rw [capture?_tokenPiece]
      cases found : token.capture? <;> simp [Grouped.topItems, found]
    rw [later]
    cases is : tokenPiece token with
    | fixed fixed =>
      obtain ⟨next, _, ⟨_, same⟩ | ⟨_, _, same⟩⟩ :=
        exists_assemble_of_fixed is slash marked run rest
      · rw [same, inductionHypothesis]
        rfl
      · rw [same, topCaptures_flush, topCaptures_optionalSlash, inductionHypothesis]
        rfl
    | capture ahead block =>
      obtain ⟨next, _, same⟩ := exists_assemble_of_capture is slash marked run rest
      rw [same, topCaptures_flush, topCaptures_item, inductionHypothesis]
      rfl
    | stop =>
      obtain rfl := eq_stop_of_tokenPiece is
      rw [assemble, topCaptures_flush, topCaptures_item, inductionHypothesis]
      rfl
  | group inner rest _ inductionHypothesis =>
    rw [assemble, topCaptures_flush, topCaptures_group, Grouped.topItems]
    split <;> simp [inductionHypothesis]

/-- Groups that are left out have the same captures in a program and in its pattern. -/
theorem unfilled_assemble (slash marked : Bool) (run : Option Text) (pattern : Pattern) :
    unfilled pieceOf (assemble slash marked run pattern) = unfilled tokenPiece pattern := by
  have ofInstruction (instruction : Instruction) :
      (pieceOf instruction).capture? = instruction.capture? := by
    cases instruction <;> rfl
  have same := captures_assemble slash marked run pattern
  unfold captures Pattern.captures at same
  simp only [unfilled, ofInstruction, capture?_tokenPiece]
  exact congrArg _ same

/-- The run of fixed text in front of a program is the start of what its trace comes to. -/
theorem trace_of_flush {run : Option Text} {program : Program}
    {filled : List (Capture × Option Text)} {text left : Text}
    (trace : Trace pieceOf (flush run program) filled text left) :
    ∃ more, text = run.getD [] ++ more ∧ Trace pieceOf program filled more left := by
  cases run with
  | none => exact ⟨text, rfl, trace⟩
  | some fixed =>
    cases trace with
    | fixed is remaining =>
      cases is
      exact ⟨_, rfl, remaining⟩
    | capture is => cases is
    | stop is => cases is

/-- A trace of a program is one of the pattern that it was assembled from. -/
theorem trace_of_assemble {marked : Bool} {run : Option Text} {pattern : Pattern}
    {filled : List (Capture × Option Text)} {text left : Text}
    (trace : Trace pieceOf (assemble false marked run pattern) filled text left) :
    ∃ more, text = run.getD [] ++ more ∧ Trace tokenPiece pattern filled more left := by
  induction pattern generalizing marked run filled text left with
  | nil =>
    obtain ⟨more, rfl, behind⟩ := trace_of_flush trace
    cases behind
    exact ⟨[], rfl, .nil⟩
  | item token rest inductionHypothesis =>
    cases is : tokenPiece token with
    | fixed fixed =>
      obtain ⟨next, ⟨goesOn, _⟩, ⟨_, same⟩ | ⟨slashed, _⟩⟩ :=
        exists_assemble_of_fixed is false marked run rest
      · rw [same] at trace
        obtain ⟨more, rfl, remaining⟩ := inductionHypothesis trace
        exact ⟨fixed ++ more, by rw [goesOn, List.append_assoc], .fixed is remaining⟩
      · cases slashed
    | capture ahead block =>
      obtain ⟨next, ⟨goesOn, _⟩, same⟩ := exists_assemble_of_capture is false marked run rest
      rw [same] at trace
      obtain ⟨more, rfl, capturing⟩ := trace_of_flush trace
      cases capturing with
      | capture captured takes behind =>
        cases captured
        obtain ⟨more, rfl, remaining⟩ := inductionHypothesis behind
        refine ⟨_, ?_, .capture is takes remaining⟩
        rw [goesOn, List.append_assoc]
        rfl
      | fixed captured => cases captured
      | stop captured => cases captured
    | stop =>
      obtain rfl := eq_stop_of_tokenPiece is
      obtain ⟨more, rfl, stopping⟩ := trace_of_flush trace
      cases stopping with
      | stop is ended behind =>
        obtain ⟨more, rfl, remaining⟩ := inductionHypothesis behind
        exact ⟨more, rfl, .stop rfl ended remaining⟩
      | fixed is => cases is
      | capture is => cases is
  | group inner rest innerHypothesis inductionHypothesis =>
    obtain ⟨more, rfl, grouped⟩ := trace_of_flush trace
    refine ⟨more, rfl, ?_⟩
    cases grouped with
    | taken within behind =>
      obtain ⟨_, rfl, innerTrace⟩ := innerHypothesis within
      obtain ⟨_, rfl, remaining⟩ := inductionHypothesis behind
      exact .taken innerTrace remaining
    | skipped behind =>
      obtain ⟨_, rfl, remaining⟩ := inductionHypothesis behind
      rw [unfilled_assemble]
      exact .skipped remaining

end TypedRoutes.Program
