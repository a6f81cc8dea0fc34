/-!
Contract: the escape sequences that colour text on a terminal, all empty when colour is off.
-/

set_option autoImplicit false

namespace TypedRoutes.Display

/-- The sequences that switch an appearance on, and the one that switches all of them off. -/
structure Palette where
  reset : String
  bold : String
  dim : String
  red : String
  green : String
  yellow : String
  cyan : String

def Palette.plain : Palette := ⟨"", "", "", "", "", "", ""⟩

def Palette.terminal : Palette where
  reset := "\x1b[0m"
  bold := "\x1b[1m"
  dim := "\x1b[2m"
  red := "\x1b[31m"
  green := "\x1b[32m"
  yellow := "\x1b[33m"
  cyan := "\x1b[36m"

def Palette.ofColor (color : Bool) : Palette :=
  if color then .terminal else .plain

def Palette.paint (palette : Palette) (sequences : String) (text : String) : String :=
  sequences ++ text ++ palette.reset

end TypedRoutes.Display
