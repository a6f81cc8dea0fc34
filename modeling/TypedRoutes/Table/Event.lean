import TypedRoutes.Text.Quoted

/-!
Contract: what happens while patterns are read and routes resolved, as a log tells it.

Owns: the events and their lines.
-/

set_option autoImplicit false

namespace TypedRoutes.Table

open TypedRoutes.Text

/-- Something worth a line in the log. -/
inductive Event where
  | parsed (pattern : Text) (elements : Nat)
  | compiled (pattern : Text) (elements : Nat)
  /-- A match did not use up its route. -/
  | rejected (route rest : Text)
  | resolved (route cls : Text)
  /-- A pattern matched, but a field could not be filled. -/
  | unbound (cls route field : Text)
  | noRoute (table route : Text)
deriving DecidableEq, Repr

/-- The line of an event: the part of the program it comes from, and what happened. -/
def Event.line : Event → String
  | .parsed pattern elements =>
    s!"switchyard.parsing: Parsed {quote pattern} into {elements} tokens"
  | .compiled pattern elements =>
    s!"switchyard.matching: Compiled {quote pattern} -> {elements} matcher tokens"
  | .rejected route rest =>
    s!"switchyard.matching: Rejected {quote route}: {quote rest} left unconsumed"
  | .resolved route cls =>
    s!"switchyard.switch: Resolved {quote route} to {String.ofList cls}"
  | .unbound cls route field =>
    s!"switchyard.switch: {String.ofList cls} matched {quote route} " ++
      s!"but field {quote field} could not bind"
  | .noRoute table route =>
    s!"switchyard.switch: No route of {String.ofList table} matched {quote route}"

end TypedRoutes.Table
