import TypedRoutes.Program.Instruction

/-!
Contract: where a capture may stop.

A capture stops before the first fixed text after it, or before the first fixed text inside one of
the groups in between. When no fixed text follows at its own level before another capture, a stop
or the end, the capture is open: it may also take all that it can.

Owns: the stops of a capture, computed from what follows it in the program.
-/

set_option autoImplicit false

namespace TypedRoutes.Program

/-- The texts before which a capture may stop, and whether it is open. -/
structure Stops where
  texts : List Text
  isOpen : Bool
deriving DecidableEq, Repr

/-- The first fixed text of a program, looked for inside groups in order. -/
def firstFixed? : Program → Option Text
  | .nil => none
  | .item (.fixed text) _ => some text
  | .item _ rest => firstFixed? rest
  | .group inner rest => (firstFixed? inner).orElse fun _ => firstFixed? rest

/-- The stops of a capture before the given rest of the program. -/
def stops : Program → Stops
  | .nil => ⟨[], true⟩
  | .item (.fixed text) _ => ⟨[text], false⟩
  | .item _ _ => ⟨[], true⟩
  | .group inner rest =>
    let after := stops rest
    ⟨(firstFixed? inner).toList ++ after.texts, after.isOpen⟩

end TypedRoutes.Program
