/-!
Contract: how a pattern is assembled and matched.

Owns: the settings, the flags that select them in short, and the reading of a choice of settings.
-/

set_option autoImplicit false

namespace TypedRoutes.Matching

structure Settings where
  /-- No slash is tolerated where a path may end. -/
  strict : Bool := false
  /-- The whole route has to be used up. -/
  complete : Bool := true
  /-- Fixed and allowed texts are compared in lower case. -/
  caseInsensitive : Bool := false
deriving DecidableEq, Repr

inductive Modifier where
  | strict
  | caseInsensitive
  | incomplete
deriving DecidableEq, Repr

def Settings.ofModifiers (modifiers : List Modifier) : Settings where
  strict := modifiers.contains .strict
  complete := !modifiers.contains .incomplete
  caseInsensitive := modifiers.contains .caseInsensitive

/-- What is given where settings can be chosen. A foreign value is known by the name of its
type. -/
inductive Choice where
  | none
  | settings (chosen : Settings)
  | modifiers (flags : List Modifier)
  | foreign (typeName : String)
deriving DecidableEq, Repr

structure NoSettings where
  typeName : String
deriving DecidableEq, Repr

def NoSettings.message (error : NoSettings) : String :=
  "Expected MatcherSettings or Modifier, got " ++ error.typeName

def Choice.isGiven : Choice → Bool
  | .none => false
  | _ => true

/-- The settings that a choice stands for; none given means the default ones. -/
def Choice.resolve : Choice → Except NoSettings Settings
  | .none => .ok {}
  | .settings chosen => .ok chosen
  | .modifiers flags => .ok (Settings.ofModifiers flags)
  | .foreign name => .error ⟨name⟩

def Settings.outline (settings : Settings) : String :=
  let word (value : Bool) := if value then "True" else "False"
  "MatcherSettings(strict=" ++ word settings.strict ++ ", complete=" ++ word settings.complete ++
    ", case_insensitive=" ++ word settings.caseInsensitive ++ ")"

end TypedRoutes.Matching
