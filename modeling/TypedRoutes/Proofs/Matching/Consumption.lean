import TypedRoutes.Matching.Matcher
import TypedRoutes.Proofs.Matching.Trace

/-!
Contract: a match uses up what its program says, and lists what its captures took.

Out of each group that a match reaches, all is reached that is not left out again deeper inside, or
nothing. The instructions that a match has reached, each with the text it used up, make up the route
as far as it is used. The entries of the match are the texts of the captures among them.

Owns: the ways through a program, steps with their texts, and the account of a match.
-/

set_option autoImplicit false

namespace TypedRoutes.Matching

open TypedRoutes.Pattern TypedRoutes.Program

/-- `IsWay program reached`: the instructions reached in order, with some groups taken and the
others left out. -/
inductive IsWay : Program → List Instruction → Prop
  | nil : IsWay .nil []
  | item {instruction : Instruction} {others : Program} {later : List Instruction}
      (remaining : IsWay others later) :
      IsWay (.item instruction others) (instruction :: later)
  | taken {inner others : Program} {reached later : List Instruction} (within : IsWay inner reached)
      (remaining : IsWay others later) :
      IsWay (.group inner others) (reached ++ later)
  | skipped {inner others : Program} {later : List Instruction} (remaining : IsWay others later) :
      IsWay (.group inner others) later

/-- An instruction that has been reached, and the text that it used up. -/
structure Step where
  instruction : Instruction
  text : Text

namespace Step

/-- What an instruction can use up where some text is left behind it. -/
def Fits (step : Step) (left : Text) : Prop :=
  match step.instruction with
  | .fixed text => step.text = text
  | .capture block => Takes block step.text left
  | .stop => step.text = [] ∧ left = []

def delivered? (step : Step) : Option Entry :=
  step.instruction.capture?.map fun block => ⟨block.name, step.text⟩

end Step

def usedText (steps : List Step) : Text :=
  steps.flatMap (·.text)

/-- Each step fits where the later ones, and some text behind them, are left. -/
def AreFitting : List Step → Text → Prop
  | [], _ => True
  | step :: later, left => step.Fits (usedText later ++ left) ∧ AreFitting later left

theorem usedText_append (first second : List Step) :
    usedText (first ++ second) = usedText first ++ usedText second := by
  simp [usedText]

theorem AreFitting.append {first second : List Step} {left : Text}
    (fitting : AreFitting first (usedText second ++ left)) (later : AreFitting second left) :
    AreFitting (first ++ second) left := by
  induction first with
  | nil => exact later
  | cons step rest inductionHypothesis =>
    have own : step.Fits (usedText (rest ++ second) ++ left) := by
      rw [usedText_append, List.append_assoc]
      exact fitting.1
    exact ⟨own, inductionHypothesis fitting.2⟩

/-- A trace of a program is a way through it, with the texts of its steps. -/
theorem Trace.exists_steps {program : Program} {filled : List (Capture × Option Text)}
    {text left : Text} (trace : Trace pieceOf program filled text left) :
    ∃ steps : List Step, IsWay program (steps.map (·.instruction)) ∧ text = usedText steps ∧
      entriesOf filled = steps.filterMap (·.delivered?) ∧ AreFitting steps left := by
  induction trace with
  | nil => exact ⟨[], .nil, rfl, rfl, trivial⟩
  | @fixed instruction _ _ text _ _ is _ inductionHypothesis =>
    obtain ⟨steps, way, rfl, entries, fitting⟩ := inductionHypothesis
    have same : instruction = .fixed text := by
      cases instruction <;> cases is
      rfl
    subst same
    exact ⟨⟨.fixed text, text⟩ :: steps, .item way, rfl, entries, rfl, fitting⟩
  | @capture instruction _ _ block ahead text _ _ is takes _ inductionHypothesis =>
    obtain ⟨steps, way, rfl, entries, fitting⟩ := inductionHypothesis
    have same : instruction = .capture block ∧ ahead = [] := by
      cases instruction <;> cases is
      exact ⟨rfl, rfl⟩
    obtain ⟨rfl, rfl⟩ := same
    refine ⟨⟨.capture block, text⟩ :: steps, .item way, rfl, ?_, takes, fitting⟩
    exact congrArg (List.cons _) entries
  | @stop instruction _ _ _ _ is ended _ inductionHypothesis =>
    obtain ⟨steps, way, rfl, entries, fitting⟩ := inductionHypothesis
    have same : instruction = .stop := by
      cases instruction <;> cases is
      rfl
    subst same
    exact ⟨⟨.stop, []⟩ :: steps, .item way, rfl, entries, ⟨rfl, ended⟩, fitting⟩
  | taken _ _ withinHypothesis inductionHypothesis =>
    obtain ⟨later, laterWay, rfl, laterEntries, laterFitting⟩ := inductionHypothesis
    obtain ⟨steps, way, rfl, entries, fitting⟩ := withinHypothesis
    refine ⟨steps ++ later, ?_, (usedText_append _ _).symm, ?_, fitting.append laterFitting⟩
    · rw [List.map_append]
      exact .taken way laterWay
    · rw [entriesOf_append, List.filterMap_append, entries, laterEntries]
  | skipped _ inductionHypothesis =>
    obtain ⟨steps, way, rfl, entries, fitting⟩ := inductionHypothesis
    refine ⟨steps, .skipped way, rfl, ?_, fitting⟩
    rw [entriesOf_append, entriesOf_unfilled, List.nil_append, entries]

/-- A match of the start of a route has gone some way through its program: the texts of its steps
are what it has used up, those of the captures among them are its entries, and a stop that it
reached stands at the end of the route. -/
theorem Matcher.exists_steps_of_matchStart? {matcher : Matcher} {route rest : Text}
    {captures : Captures} (sensitive : matcher.settings.caseInsensitive = false)
    (matched : matcher.matchStart? route = some (captures, rest)) :
    ∃ steps : List Step,
      IsWay matcher.program (steps.map (·.instruction)) ∧
        route = usedText steps ++ rest ∧
          captures.entries = steps.filterMap (·.delivered?) ∧
            AreFitting steps rest := by
  unfold Matcher.matchStart? Matcher.start at matched
  rw [sensitive] at matched
  obtain ⟨⟨entries, last⟩, ran, same⟩ := Option.map_eq_some_iff.1 matched
  cases same
  obtain ⟨filled, text, trace, used, _, rfl⟩ := exists_trace_of_run ran
  obtain ⟨steps, way, rfl, listed, fitting⟩ := trace.exists_steps
  exact ⟨steps, way, used, listed, fitting⟩

/-- The account of a match with a group inside a group, and one that fails behind its capture. -/
theorem Matcher.exists_steps_of_matchStart?_nested :
    let dashed (more : Program) : Program :=
      .item (.fixed "-".toList) (.item (.capture ⟨.one, none, none⟩) more)
    let pair : Program :=
      .item (.fixed "/".toList)
        (.item (.capture ⟨.exactly 2, some "p".toList, none⟩)
          (.group (dashed (.item (.fixed "+".toList) .nil)) (.group (dashed .nil) .nil)))
    let matcher : Matcher :=
      { text := []
        pattern := .nil
        program := .item (.fixed "/a".toList) (.group pair (.item .stop .nil))
        settings := { complete := false } }
    let captures : Captures := ⟨[⟨some "p".toList, "b/c".toList⟩, ⟨none, "d".toList⟩]⟩
    matcher.matchStart? "/a/b/c-d".toList = some (captures, []) ∧
      ∃ steps : List Step,
        IsWay matcher.program (steps.map (·.instruction)) ∧
          "/a/b/c-d".toList = usedText steps ++ [] ∧
            captures.entries = steps.filterMap (·.delivered?) ∧
              AreFitting steps [] := by
  intro dashed pair matcher captures
  have matched : matcher.matchStart? "/a/b/c-d".toList = some (captures, []) := by
    decide +kernel
  exact ⟨matched, Matcher.exists_steps_of_matchStart? rfl matched⟩

end TypedRoutes.Matching
