import TypedRoutes.Command.Basic
import TypedRoutes.Command.Nothing
import TypedRoutes.Command.Target
import TypedRoutes.Display.Report
import TypedRoutes.Pattern.Outline
import TypedRoutes.Program.Listing
import TypedRoutes.Table.Audit
import TypedRoutes.Table.Resolution

/-!
Contract: running a command.

A run ends with a status and what has been written to the two streams, in lines. A malformed pattern
is shown on the error stream; so are complaints about targets, unless they are of a kind that no
command reports, which leaves the run without an end.

Owns: the commands' output. Does not own: the streams themselves.
-/

set_option autoImplicit false

namespace TypedRoutes.Command

open TypedRoutes.Declaration TypedRoutes.Display TypedRoutes.Matching TypedRoutes.Number
open TypedRoutes.Pattern TypedRoutes.Table TypedRoutes.Text

structure Terminals where
  output : Bool := false
  error : Bool := false

/-- How a run ends: its status and the lines on the two streams. -/
structure Ending where
  status : Nat
  output : List String := []
  error : List String := []
deriving DecidableEq, Repr

/-- What no command reports. -/
inductive Escape where
  | number (error : IntegerError)
  | target (error : TargetError)
  /-- The value of a field could not be made. -/
  | expression (error : ExpressionError)
  /-- An instance cannot be shown. -/
  | obstacle (error : Obstacle)
  /-- A command was given nothing to work on. -/
  | nothing (demand : Demand)
deriving DecidableEq, Repr

namespace Escape

def message : Escape → String
  | .number error => error.message
  | .target error => error.message
  | .expression error => error.message
  | .obstacle error => error.message
  | .nothing demand => demand.message

def blame : Escape → Blame
  | .number _ => .content
  | .target error => error.blame
  | .expression error => error.blame
  | .obstacle error => error.blame
  | .nothing demand => demand.blame

end Escape

/-- An ending with the events before it, unless something escapes. -/
abbrev Run := Except Escape (Ending × List Event)

def textOf (lines : List String) : String :=
  String.join (lines.map (· ++ "\n"))

/-- An ending after events of the log, which go first on the error stream. -/
def Ending.after (events : List Event) (verbose : Bool) (ending : Ending) : Ending :=
  if verbose then { ending with error := events.map Event.line ++ ending.error } else ending

def patternEnding (terminals : Terminals) : PatternError → Except Escape Ending
  | .malformed diagnosis =>
    .ok { status := 1, error := [diagnosis.render (Palette.ofColor terminals.error)] }
  | .number error => .error (.number error)

/-- The ending for a target that is no table. Commands report complaints about malformed patterns,
kinds and parts. -/
def targetEnding (terminals : Terminals) (error : TargetError) : Except Escape Ending :=
  match error with
  | .refused (.pattern pattern) => patternEnding terminals pattern
  | _ =>
    match error.blame with
    | .kind | .part => .ok { status := 1, error := ["Error: " ++ error.message] }
    | _ => .error (.target error)

def topLength {α : Type} (sequence : Grouped α) : Nat :=
  sequence.elements.length

def compileEvents (matcher : Matcher) : List Event :=
  [.parsed matcher.text (topLength matcher.pattern),
    .compiled matcher.text (topLength matcher.program)]

/-- Shows the program of a pattern, or its tokens. -/
def showPattern (matcher : Matcher) (raw : Bool) : Ending :=
  let lines := if raw then outlines matcher.pattern else Program.listings matcher.program
  { status := 0, output := lines.map String.ofList }

def captureLine (entry : Entry) : String :=
  "  " ++ String.ofList (entry.name.getD ['_']) ++ " = " ++ quote entry.text

def noMatch (matcher : Matcher) (shown : String) : Ending :=
  { status := 1, error := ["No match: " ++ shown ++ " against " ++ quote matcher.text] }

def matched (captures : Captures) (rest : Text) : Ending :=
  { status := 0
    output :=
      "Matched." :: captures.entries.map captureLine ++
        (if rest.isEmpty then [] else ["  (unconsumed: " ++ quote rest ++ ")"]) }

def tryMatch (matcher : Matcher) (route : Text) : Ending × List Event :=
  let failed := noMatch matcher (quote route)
  if matcher.settings.complete then
    match matcher.verdict route with
    | .matched captures => (matched captures [], [])
    | .leftOver rest => (failed, [.rejected route rest])
    | .failed => (failed, [])
  else
    match matcher.matchStart? route with
    | some (captures, rest) => (matched captures rest, [])
    | none => (failed, [])

def tryOperand (matcher : Matcher) : Operand → Run
  | some route => .ok (tryMatch matcher route)
  | none =>
    match runOnNothing matcher.settings.caseInsensitive matcher.program with
    | .error demand => .error (.nothing demand)
    | .ok true => .ok (matched ⟨[]⟩ [], [])
    | .ok false => .ok (noMatch matcher "[]", [])

def padRight (width : Nat) (text : String) : String :=
  text.pushn ' ' (width - text.length)

def padLeft (width : Nat) (text : String) : String :=
  "".pushn ' ' (width - text.length) ++ text

/-- The greatest length among texts, or a least one. -/
def columnWidth (least : Nat) (texts : List String) : Nat :=
  texts.foldl (fun width text => max width text.length) least

def listRoutes (target : Target) : Ending :=
  let variants := target.table.variants
  if variants.isEmpty then { status := 0, output := ["No routes declared."] }
  else
    let names := variants.map (·.name)
    let layouts := variants.map (·.route.layout.word)
    let nameWidth := columnWidth 5 names
    let layoutWidth := columnWidth 6 layouts
    let patternWidth := columnWidth 0 (variants.map (·.pattern))
    let line (number name layout pattern : String) :=
      padLeft 2 number ++ "  " ++ padRight nameWidth name ++ "  " ++
        padRight layoutWidth layout ++ "  " ++ pattern
    let rows :=
      (variants.zip (List.range variants.length)).map fun (variant, place) =>
        line (toString (place + 1)) variant.name variant.route.layout.word variant.pattern
    { status := 0
      output :=
        line "#" "ROUTE" "LAYOUT" "PATTERN" ::
          "".pushn '-' (min (nameWidth + layoutWidth + 8 + patternWidth) 80) :: rows }

def showResolved (target : Target) : Operand → Run
  | none => .error (.nothing .route)
  | some route =>
    let outcome := target.catalog.switch target.table { route }
    match outcome.result with
    | .error error => .error (.expression error)
    | .ok none =>
      .ok
        ({ status := 1
           error :=
            ["Not found: no route of " ++ String.ofList target.table.cls.name ++ " matches " ++
              quote route] },
          outcome.events)
    | .ok (some value) =>
      match value.shown with
      | .error error => .error (.obstacle error)
      | .ok text => .ok ({ status := 0, output := [String.ofList text] }, outcome.events)

def showAudit (target : Target) (terminals : Terminals) : Ending :=
  let report := target.catalog.audit target.table
  { status := if report.isClean then 0 else 1
    output := [(Palette.ofColor terminals.output).report "switchyard check" report] }

def run (modules : Modules) (terminals : Terminals) (invocation : Invocation) :
    Except Escape Ending :=
  let finish (before : List Event) (ended : Run) : Except Escape Ending :=
    ended.map fun (ending, events) => ending.after (before ++ events) invocation.verbose
  let withMatcher (pattern : Text) (settings : Settings) (use : Matcher → Run) :=
    match Matcher.compile pattern settings with
    | .error error => patternEnding terminals error
    | .ok matcher => finish (compileEvents matcher) (use matcher)
  let withTarget (name : Text) (use : Target → Run) :=
    match findTarget modules name with
    | .error error => targetEnding terminals error
    | .ok target => finish [] (use target)
  match invocation.action with
  | .parse pattern raw settings =>
    withMatcher pattern settings fun matcher => .ok (showPattern matcher raw, [])
  | .match pattern route settings =>
    withMatcher pattern settings fun matcher => tryOperand matcher route
  | .routes name => withTarget name fun target => .ok (listRoutes target, [])
  | .resolve name route => withTarget name fun target => showResolved target route
  | .check name => withTarget name fun target => .ok (showAudit target terminals, [])

end TypedRoutes.Command
