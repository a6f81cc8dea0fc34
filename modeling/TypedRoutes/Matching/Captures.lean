import TypedRoutes.Mapping
import TypedRoutes.Text.Quoted

/-!
Contract: what a match has captured.

Every capture of a match leaves an entry, its name if it has one and its text. The positional view
lists all texts in match order; the named view is a mapping that has each name once, at the place
of its first entry and with the text of its last one.

Owns: entries, the two views, look-up and the written form.
-/

set_option autoImplicit false

namespace TypedRoutes.Matching

open TypedRoutes.Text

/-- The text of one capture, under its name if it has one. -/
structure Entry where
  name : Option Text
  text : Text
deriving DecidableEq, Repr

/-- The captures of one match in match order. -/
structure Captures where
  entries : List Entry
deriving DecidableEq, Repr

namespace Captures

def positional (captures : Captures) : List Text :=
  captures.entries.map (·.text)

def named (captures : Captures) : Mapping Text :=
  Mapping.ofEntries
    (captures.entries.filterMap fun entry => entry.name.map fun name => (name, entry.text))

def get? (captures : Captures) (name : Text) : Option Text :=
  Mapping.get? captures.named name

/-- The number of names. -/
def size (captures : Captures) : Nat :=
  captures.named.length

def unnamed (captures : Captures) : List Text :=
  captures.entries.filterMap fun entry =>
    match entry.name with
    | none => some entry.text
    | some _ => none

/-- Whether a mapping has the same names with the same texts, in whatever order. -/
def sameMapping (captures : Captures) (other : Mapping Text) : Bool :=
  captures.size == other.length &&
    captures.named.all fun (name, text) => Mapping.get? other name == some text

/-- The written form: the mapping, and the unnamed texts if there are any. -/
def outline (captures : Captures) : Text :=
  let pair : Text × Text → Text := fun (name, text) => quoted name ++ [':', ' '] ++ quoted text
  let mapping := '{' :: join [',', ' '] (captures.named.map pair) ++ ['}']
  let unnamed := captures.unnamed
  if unnamed.isEmpty then "Captures(".toList ++ mapping ++ [')']
  else "Captures(".toList ++ mapping ++ ", unnamed=".toList ++ quotedList unnamed ++ [')']

end Captures

end TypedRoutes.Matching
