import TypedRoutes.Command.Arguments
import TypedRoutes.Matching.Settings
import TypedRoutes.Text.Basic

/-!
Contract: the commands and how arguments select them.

Owns: the commands with what they work on, and the reading of a whole command line.
-/

set_option autoImplicit false

namespace TypedRoutes.Command

open TypedRoutes.Matching

inductive Action where
  /-- Show the program of a pattern, or its tokens. -/
  | parse (pattern : Text) (raw : Bool) (settings : Settings)
  /-- Match a pattern against a route. -/
  | match (pattern : Text) (route : Operand) (settings : Settings)
  /-- List the routes of a table. -/
  | routes (target : Text)
  /-- Resolve a route with a table. -/
  | resolve (target : Text) (route : Operand)
  /-- Audit a table. -/
  | check (target : Text)
deriving DecidableEq, Repr

structure Invocation where
  action : Action
  verbose : Bool
deriving DecidableEq, Repr

def mainSpellings : Spellings :=
  [("-h", Flag.help), ("--help", .help), ("-v", .verbose), ("--verbose", .verbose)].map
    fun (spelling, flag) => (spelling.toList, flag)

def helpSpellings : Spellings :=
  [("-h".toList, .help), ("--help".toList, .help)]

def settingsSpellings : Spellings :=
  [("--strict".toList, .strict), ("--case-insensitive".toList, .caseInsensitive),
    ("--incomplete".toList, .incomplete)]

def settingsOf (flags : List Flag) : Settings :=
  Settings.ofModifiers
    (flags.filterMap fun flag =>
      match flag with
      | .strict => some .strict
      | .caseInsensitive => some .caseInsensitive
      | .incomplete => some .incomplete
      | _ => none)

def readCommand (spellings : Spellings) (needed : Nat) (extra : Bool) (arguments : List Text) :
    Except Stop (List Flag × List Operand) :=
  match sortArguments spellings arguments with
  | none => .error .usage
  | some sorted => readValues needed .fresh extra sorted

def selectAction (name : Text) (extra : Bool) (arguments : List Text) : Except Stop Action :=
  let forPatterns := helpSpellings ++ settingsSpellings
  match String.ofList name with
  | "parse" =>
    match readCommand (helpSpellings ++ ("--raw".toList, .raw) :: settingsSpellings) 1 extra
        arguments with
    | .error stop => .error stop
    | .ok (flags, [some pattern]) => .ok (.parse pattern (flags.contains .raw) (settingsOf flags))
    | .ok _ => .error .usage
  | "match" =>
    match readCommand forPatterns 2 extra arguments with
    | .error stop => .error stop
    | .ok (flags, [some pattern, route]) => .ok (.match pattern route (settingsOf flags))
    | .ok _ => .error .usage
  | "routes" =>
    match readCommand helpSpellings 1 extra arguments with
    | .error stop => .error stop
    | .ok (_, [some target]) => .ok (.routes target)
    | .ok _ => .error .usage
  | "resolve" =>
    match readCommand helpSpellings 2 extra arguments with
    | .error stop => .error stop
    | .ok (_, [some target, route]) => .ok (.resolve target route)
    | .ok _ => .error .usage
  | "check" =>
    match readCommand helpSpellings 1 extra arguments with
    | .error stop => .error stop
    | .ok (_, [some target]) => .ok (.check target)
    | .ok _ => .error .usage
  | _ => .error .usage

/-- Reads a command line from its sorted arguments, beside the arguments themselves. Without a
command there is only help to show. -/
def selectFrom (verbose extra : Bool) :
    List (Argument × Text) → List Text → Except Stop Invocation
  | [], _ => .error (if extra then .usage else .help)
  | (.refused, _) :: _, _ => .error .usage
  | (.separator, _) :: _, _ => .error .usage
  | (.unknown, _) :: rest, arguments => selectFrom verbose true rest (arguments.drop 1)
  | (.options flags, _) :: rest, arguments =>
    if flags.contains .help then .error .help
    else selectFrom (verbose || flags.contains .verbose) extra rest (arguments.drop 1)
  | (.value name, _) :: _, arguments =>
    (selectAction name extra (arguments.drop 1)).map fun action => ⟨action, verbose⟩

def readCommandLine (arguments : List Text) : Except Stop Invocation :=
  match sortArguments mainSpellings arguments with
  | none => .error .usage
  | some sorted => selectFrom false false (sorted.zip arguments) arguments

end TypedRoutes.Command
