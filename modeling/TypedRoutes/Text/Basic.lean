/-!
Contract: texts are sequences of code points.

Every position, length and cut in this library counts code points, so a text is the list of its
characters. Strings appear only where finished output is put together.

Owns: the type and the few operations on texts that lists do not already have.
-/

set_option autoImplicit false

namespace TypedRoutes

/-- A text as the sequence of its code points. -/
abbrev Text := List Char

namespace Text

def join (separator : Text) : List Text → Text
  | [] => []
  | [part] => part
  | part :: rest => part ++ separator ++ join separator rest

/-- Whether one text comes before or at another in the order of code points. -/
def precedes : Text → Text → Bool
  | [], _ => true
  | _ :: _, [] => false
  | a :: as, b :: bs => if a = b then precedes as bs else a.toNat < b.toNat

def sorted (texts : List Text) : List Text :=
  texts.mergeSort precedes

/-- All occurrences of a word taken out, found from left to right without overlap. -/
def removeAll (word : Text) : Text → Text
  | [] => []
  | c :: rest =>
    match word with
    | [] => c :: rest
    | _ :: more =>
      if word.isPrefixOf (c :: rest) then removeAll word (rest.drop more.length)
      else c :: removeAll word rest
termination_by text => text.length
decreasing_by
  all_goals simp only [List.length_cons, List.length_drop]
  all_goals omega

/-- The text without the characters of a set at either end. -/
def strip (inSet : Char → Bool) (text : Text) : Text :=
  ((text.dropWhile inSet).reverse.dropWhile inSet).reverse

end Text

end TypedRoutes
