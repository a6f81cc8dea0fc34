import TypedRoutes.Text.Composition
import TypedRoutes.Text.MarkClass
import TypedRoutes.Text.PlainForm

/-!
Contract: the normal form of names.

A name can be spelled in several ways: with a ligature or a wide letter in the place of plain ones,
with a letter and a mark in the place of one letter that has the mark, or with marks in another
order. The normal form has plain letters, marks in the order of their classes, and single letters
where there are any.

Owns: the normal form, and when a name is in it.
-/

set_option autoImplicit false

namespace TypedRoutes.Text

/-- No letter has more marks than this one upon the other. -/
def markDepth : Nat := 4

/-- What a character is made of, down to plain letters and single marks, unless it has more marks
than `depth`. -/
def decomposed (depth : Nat) (c : Char) : List Char :=
  match depth with
  | 0 => [c]
  | depth + 1 =>
    if c.toNat < 0x80 then [c]
    else
      match syllableParts? c, letterAndMark? c with
      | some parts, _ => parts
      | none, some (letter, mark) => decomposed depth letter ++ [mark]
      | none, none => (plainForm? c).getD [c]

/-- Puts a character in front of a text, behind marks there of a lower class than its own if it is a
mark. -/
def insertMark (c : Char) : List Char → List Char
  | [] => [c]
  | next :: rest =>
    if markClass next ≠ 0 ∧ markClass next < markClass c then next :: insertMark c rest
    else c :: next :: rest

def sortMarks (text : List Char) : List Char :=
  text.foldr insertMark []

/-- Joins what it can of a text to the letter before it. `kept` are the marks in between that did
not join; a mark behind another one of its class stays apart. -/
def joinTo (letter : Char) (kept : List Char) : List Char → List Char
  | [] => letter :: kept
  | c :: rest =>
    let isFree :=
      match kept.getLast? with
      | none => true
      | some mark => markClass mark < markClass c
    match if isFree then composed? letter c else none with
    | some whole => joinTo whole kept rest
    | none =>
      if markClass c = 0 then letter :: kept ++ joinTo c [] rest
      else joinTo letter (kept ++ [c]) rest

def joined : List Char → List Char
  | [] => []
  | c :: rest => joinTo c [] rest

def isAscii (text : List Char) : Bool :=
  text.all fun c => c.toNat < 0x80

def normalForm (name : List Char) : List Char :=
  if isAscii name then name else joined (sortMarks (name.flatMap (decomposed markDepth)))

def isNormal (name : List Char) : Bool :=
  normalForm name = name

end TypedRoutes.Text
