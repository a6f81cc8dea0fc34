import TypedRoutes.Text.Basic

/-!
Contract: which identifiers are taken.

Owns: the reserved words. All of them are identifiers, so a name has to be checked for both.
-/

set_option autoImplicit false

namespace TypedRoutes.Text

def keywords : List Text :=
  ["False", "None", "True", "and", "as", "assert", "async", "await", "break", "class", "continue",
    "def", "del", "elif", "else", "except", "finally", "for", "from", "global", "if", "import",
    "in", "is", "lambda", "nonlocal", "not", "or", "pass", "raise", "return", "try", "while",
    "with", "yield"].map String.toList

def isKeyword (text : Text) : Bool :=
  keywords.contains text

end TypedRoutes.Text
