/-!
Contract: when a computation that can fail succeeds.

A chain of such computations succeeds exactly if each of its links does, each with what the one
before has come to.

Owns: the equivalence that takes a success of a chain apart into successes of its links.
-/

set_option autoImplicit false

namespace TypedRoutes

variable {ε α β : Type}

/-- A chain succeeds if its first link does and the rest goes on from there. -/
theorem bind_eq_ok_iff {first : Except ε α} {rest : α → Except ε β} {result : β} :
    first >>= rest = .ok result ↔ ∃ found, first = .ok found ∧ rest found = .ok result := by
  cases first with
  | error failure => simp [bind, Except.bind]
  | ok found => simp [bind, Except.bind]

theorem bind_eq_error_iff {first : Except ε α} {rest : α → Except ε β} {failure : ε} :
    first >>= rest = .error failure ↔
      first = .error failure ∨ ∃ found, first = .ok found ∧ rest found = .error failure := by
  cases first with
  | error other => simp [bind, Except.bind]
  | ok found => simp [bind, Except.bind]

theorem map_eq_ok_iff {computation : Except ε α} {make : α → β} {result : β} :
    computation.map make = .ok result ↔ ∃ found, computation = .ok found ∧ make found = result := by
  cases computation with
  | error failure => simp [Except.map]
  | ok found => simp [Except.map]

theorem map_eq_error_iff {computation : Except ε α} {make : α → β} {failure : ε} :
    computation.map make = .error failure ↔ computation = .error failure := by
  cases computation with
  | error other => simp [Except.map]
  | ok found => simp [Except.map]

theorem mapError_eq_ok_iff {ε' : Type} {computation : Except ε α} {change : ε → ε'} {result : α} :
    computation.mapError change = .ok result ↔ computation = .ok result := by
  cases computation with
  | error failure =>
    constructor
    · intro same
      cases same
    · intro same
      cases same
  | ok found =>
    constructor
    · intro same
      cases same
      rfl
    · intro same
      cases same
      rfl

theorem mapError_eq_error_iff {ε' : Type} {computation : Except ε α} {change : ε → ε'}
    {changed : ε'} :
    computation.mapError change = .error changed ↔
      ∃ failure, computation = .error failure ∧ change failure = changed := by
  cases computation with
  | error failure =>
    constructor
    · intro same
      cases same
      exact ⟨failure, rfl, rfl⟩
    · rintro ⟨_, same, rfl⟩
      cases same
      rfl
  | ok found =>
    constructor
    · intro same
      cases same
    · rintro ⟨_, same, _⟩
      cases same

end TypedRoutes
