import TypedRoutes.Declaration.Fields
import TypedRoutes.Declaration.Members

/-!
Contract: why a declaration is refused.

Owns: the complaints about whole classes and tables with their wording. Does not own: the complaints
about single fields and members.
-/

set_option autoImplicit false

namespace TypedRoutes.Declaration

open TypedRoutes.Matching TypedRoutes.Table TypedRoutes.Text

/-- Why the fields of a class do not fit its pattern. -/
inductive ConfigurationError where
  | stateFields (cls : Text) (fields : List Text)
  | noCapture (cls field pattern : Text)
  | tooFewCaptures (cls : Text) (needed : Nat) (pattern : Text) (provided : Nat)
deriving DecidableEq, Repr

def ConfigurationError.message : ConfigurationError → String
  | .stateFields cls fields =>
    String.ofList cls ++ " declares more than one state field: " ++
      String.ofList (join [',', ' '] fields)
  | .noCapture cls field pattern =>
    String.ofList cls ++ "." ++ String.ofList field ++ " has no capture named " ++ quote field ++
      " in " ++ quote pattern
  | .tooFewCaptures cls needed pattern provided =>
    s!"{String.ofList cls} needs {needed} captures but {quote pattern} always provides {provided}"

/-- Why there is no table of a body and a base. -/
inductive TableError where
  /-- An enumeration with members cannot be extended. -/
  | closed (table base : Text)
  /-- The base is no table, and so has no use for settings. -/
  | settings (table : Text)
  /-- Something stands in the place of what the base does with classes derived from it. -/
  | obstacle (error : Obstacle)
  /-- There is a zero character in the name of the table. -/
  | zeroCharacter
  /-- A class of this kind stands in the place of the name of the table. -/
  | className (kind : Text)
  /-- A class of the shown kind stands in the place of the table itself. -/
  | cell (shown : Text)
deriving DecidableEq, Repr

namespace TableError

def message : TableError → String
  | .closed table base =>
    "<enum " ++ quote table ++ "> cannot extend <enum " ++ quote base ++ ">"
  | .settings table => String.ofList table ++ ".__init_subclass__() takes no keyword arguments"
  | .obstacle error => error.message
  | .zeroCharacter => "type name must not contain null characters"
  | .className kind => "type __qualname__ must be a str, not " ++ String.ofList kind
  | .cell shown => "__classcell__ must be a nonlocal cell, not " ++ String.ofList shown

def blame : TableError → Blame
  | .zeroCharacter => .content
  | .obstacle error => error.blame
  | .closed _ _ | .settings _ | .className _ | .cell _ => .kind

end TableError

inductive DeclarationError where
  /-- No class of the name has been declared. -/
  | undeclared (name : Text)
  | fields (error : FieldError)
  | members (error : MemberError)
  | settings (error : NoSettings)
  | pattern (error : Pattern.PatternError)
  | configuration (error : ConfigurationError)
  | table (error : TableError)
deriving DecidableEq, Repr

namespace DeclarationError

def message : DeclarationError → String
  | .undeclared name => String.ofList name
  | .fields error => error.message
  | .members error => error.message
  | .settings error => error.message
  | .pattern (.malformed diagnosis) => diagnosis.render .plain
  | .pattern (.number error) => error.message
  | .configuration error => error.message
  | .table error => error.message

def blame : DeclarationError → Blame
  | .undeclared _ => .undeclared
  | .fields error => error.blame
  | .members error => error.blame
  | .settings _ => .kind
  | .pattern (.malformed _) => .pattern
  | .pattern (.number _) => .content
  | .configuration _ => .configuration
  | .table error => error.blame

end DeclarationError

end TypedRoutes.Declaration
