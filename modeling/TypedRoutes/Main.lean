import TypedRoutes.Command.Run

/-!
Contract: the program on the command line.

It decodes the arguments, runs the command and writes what the run ends with. No modules are known
to it, so commands on tables complain about their targets.
-/

set_option autoImplicit false

open TypedRoutes.Command

def usageText : String :=
  "usage: switchyard [-h] [-v] \x7bparse,match,routes,resolve,check\x7d ..."

def main (arguments : List String) : IO UInt32 := do
  let output ← IO.getStdout
  let error ← IO.getStderr
  match readCommandLine (arguments.map String.toList) with
  | .error .help =>
    output.putStrLn usageText
    return 0
  | .error .usage =>
    error.putStrLn usageText
    return 2
  | .ok invocation =>
    let terminals : Terminals := { output := ← output.isTty, error := ← error.isTty }
    match run [] terminals invocation with
    | .error escape =>
      error.putStrLn escape.message
      return 1
    | .ok ending =>
      output.putStr (textOf ending.output)
      error.putStr (textOf ending.error)
      return ending.status.toUInt32
