import TypedRoutes.Pattern.Token

/-!
Contract: programs that match routes.

A program is a sequence of instructions and optional groups. Text that a pattern fixes is a single
instruction however many tokens it came from; captures and the stop keep their own.

Owns: instructions, programs and the captures in them.
-/

set_option autoImplicit false

namespace TypedRoutes.Program

/-- One step of a match. -/
inductive Instruction where
  /-- The route goes on with this text. -/
  | fixed (text : Text)
  /-- The route goes on with text that the capture takes. -/
  | capture (block : Pattern.Capture)
  /-- The route ends. -/
  | stop
deriving DecidableEq, Repr

def Instruction.capture? : Instruction → Option Pattern.Capture
  | .capture block => some block
  | _ => none

end TypedRoutes.Program

namespace TypedRoutes

/-- A program as a sequence of instructions and optional groups. -/
abbrev Program := Grouped Program.Instruction

def Program.captures (program : Program) : List Pattern.Capture :=
  program.flatten.filterMap Program.Instruction.capture?

/-- The captures of a program outside of groups, which every match fills. -/
def Program.topCaptures (program : Program) : List Pattern.Capture :=
  program.topItems.filterMap Program.Instruction.capture?

end TypedRoutes
