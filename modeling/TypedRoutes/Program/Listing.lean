import TypedRoutes.Pattern.Outline
import TypedRoutes.Pattern.Source
import TypedRoutes.Program.Instruction

/-!
Contract: programs as they are listed, one element a line.

Owns: the listing of instructions and groups, and the view of a pattern as a program, which exists
when all its tokens are ones that programs share.
-/

set_option autoImplicit false

namespace TypedRoutes.Program

open TypedRoutes.Pattern TypedRoutes.Text

def Instruction.listing : Instruction → Text
  | .fixed text => "Exact(".toList ++ quoted text ++ [')']
  | .capture block =>
    let form := "Capture(".toList ++ block.formOutline ++ [')']
    match block.allowed with
    | none => form
    | some allowed => form ++ " allowed=".toList ++ quotedList allowed
  | .stop => "End".toList

def listings : Program → List Text
  | .nil => []
  | .item instruction rest => instruction.listing :: listings rest
  | .group inner rest =>
    ("Optional[".toList ++ join [',', ' '] (listings inner) ++ [']']) :: listings rest

def instruction? : Token → Option Instruction
  | .fixed text => some (.fixed text)
  | .capture block => some (.capture block)
  | .stop => some .stop
  | _ => none

/-- A pattern made of tokens that programs share, as a program; else the first token that is
not. -/
def ofShared? : Pattern → Except Token Program
  | .nil => .ok .nil
  | .item token rest =>
    match instruction? token with
    | none => .error token
    | some instruction => (ofShared? rest).map (.item instruction)
  | .group inner rest =>
    match ofShared? inner with
    | .error token => .error token
    | .ok program => (ofShared? rest).map (.group program)

def notInPrograms (token : Token) : String :=
  "Unknown matcher token: " ++ String.ofList token.outline

/-- The complaint about fixed text, which no pattern text denotes. -/
def notInPatterns (text : Text) : String :=
  "Unknown token: " ++ String.ofList (Token.fixed text).outline

def elementListing? (element : Element Token) : Except Token Text :=
  (ofShared? (Grouped.single element)).map fun program => join [] (listings program)

end TypedRoutes.Program
