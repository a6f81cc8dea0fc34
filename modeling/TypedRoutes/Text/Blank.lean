import TypedRoutes.Text.Ranges

/-!
Contract: the blank characters, which no captured text may contain.

Owns: the words of a text, and the set of characters that separate them, after the Unicode
properties of white space and of the bidirectional classes for paragraph, segment and blank
separators.
-/

set_option autoImplicit false

namespace TypedRoutes.Text

def blankRanges : Ranges :=
  [
    (0x9, 0xd), (0x1c, 0x20), (0x85, 0x85), (0xa0, 0xa0), (0x1680, 0x1680), (0x2000, 0x200a),
    (0x2028, 0x2029), (0x202f, 0x202f), (0x205f, 0x205f), (0x3000, 0x3000)]

def isBlank (c : Char) : Bool :=
  blankRanges.contains c.toNat

/-- The words of a text, with what has been read of the first one in front, backwards. -/
def wordsFrom (word : List Char) : List Char → List (List Char)
  | [] => if word.isEmpty then [] else [word.reverse]
  | c :: rest =>
    if !isBlank c then wordsFrom (c :: word) rest
    else if word.isEmpty then wordsFrom [] rest
    else word.reverse :: wordsFrom [] rest

def words (text : List Char) : List (List Char) :=
  wordsFrom [] text

theorem blankRanges_ascending : Ranges.Ascending blankRanges := by
  simp [blankRanges, Ranges.Ascending]

end TypedRoutes.Text
