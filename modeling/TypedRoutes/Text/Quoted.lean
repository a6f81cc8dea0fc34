import TypedRoutes.Text.Basic
import TypedRoutes.Text.Printable

/-!
Contract: the quoted form of a text, in which diagnostics and listings show it.

A text stands between single quotes, or between double quotes when it holds a single quote and no
double quote. Inside, the quote in use and the backslash follow a backslash; line feed, carriage
return and tab have letters of their own; every other character that is not printable is written
with its code point in two, four or eight hexadecimal digits.

Owns: the quoted form and the listing of several texts.
-/

set_option autoImplicit false

namespace TypedRoutes.Text

/-- The hexadecimal digit of a value below sixteen, in lower case. -/
def hexDigit (value : Nat) : Char :=
  if value < 10 then Char.ofNat (0x30 + value) else Char.ofNat (0x57 + value)

/-- The lowest hexadecimal digits of a number, as many as asked for. -/
def hexDigits : Nat → Nat → Text
  | 0, _ => []
  | width + 1, value => hexDigits width (value / 16) ++ [hexDigit (value % 16)]

def enclosingQuote (text : Text) : Char :=
  if text.contains '\'' && !text.contains '"' then '"' else '\''

def quotedChar (quote : Char) (c : Char) : Text :=
  if c = quote || c = '\\' then ['\\', c]
  else if c = '\n' then ['\\', 'n']
  else if c = '\r' then ['\\', 'r']
  else if c = '\t' then ['\\', 't']
  else if isPrintable c then [c]
  else if c.toNat < 0x100 then '\\' :: 'x' :: hexDigits 2 c.toNat
  else if c.toNat < 0x10000 then '\\' :: 'u' :: hexDigits 4 c.toNat
  else '\\' :: 'U' :: hexDigits 8 c.toNat

def quoted (text : Text) : Text :=
  let quote := enclosingQuote text
  quote :: text.flatMap (quotedChar quote) ++ [quote]

def quotedList (texts : List Text) : Text :=
  '[' :: join [',', ' '] (texts.map quoted) ++ [']']

/-- Written items in round brackets; a single item is followed by a comma. -/
def roundList : List Text → Text
  | [item] => '(' :: item ++ [',', ')']
  | items => '(' :: join [',', ' '] items ++ [')']

def quote (text : Text) : String :=
  String.ofList (quoted text)

end TypedRoutes.Text
