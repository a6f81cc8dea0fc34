/-!
Contract: a payload that is handed out at most once.

A slot remembers whether its payload has been taken. The memory can be set back to what it was, so
that an attempt that fails leaves no trace.

Owns: the slot and its three operations.
-/

set_option autoImplicit false

namespace TypedRoutes.Table

structure Slot (α : Type) where
  payload : α
  taken : Bool := false
deriving DecidableEq, Repr

namespace Slot

variable {α : Type}

/-- The payload, if it has not been taken before, and the slot after it. -/
def take (slot : Slot α) : Option α × Slot α :=
  if slot.taken then (none, slot) else (some slot.payload, { slot with taken := true })

/-- What to remember in order to set the slot back. -/
def mark (slot : Slot α) : Bool :=
  slot.taken

def reset (slot : Slot α) (mark : Bool) : Slot α :=
  { slot with taken := mark }

@[simp] theorem payload_take (slot : Slot α) : slot.take.2.payload = slot.payload := by
  unfold take
  split <;> rfl

end Slot

end TypedRoutes.Table
