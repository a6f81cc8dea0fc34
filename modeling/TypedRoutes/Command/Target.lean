import TypedRoutes.Command.Library
import TypedRoutes.Declaration.Module

/-!
Contract: finding the table that a command is to work on.

A target is the name of a module and, after a colon, the name of something in it; without the latter
it is `Route`. Beside what is declared in a module there is what every module has. The modules of
this library are always there; the only table in them is the one that all others extend, and which
has no routes itself.

Owns: the reading of targets and the complaints about them.
-/

set_option autoImplicit false

namespace TypedRoutes.Command

open TypedRoutes.Declaration TypedRoutes.Table TypedRoutes.Text

abbrev Modules := List (Text × Module)

inductive TargetError where
  | noModuleName
  | relative (name : Text)
  | noModule (name : Text)
  | noPackage (name parent : Text)
  | noAttribute (module name : Text)
  | noTable (target : Text) (kind : String)
  /-- The target was declared, but the declaration refused. -/
  | refused (error : DeclarationError)
deriving DecidableEq, Repr

def TargetError.message : TargetError → String
  | .noModuleName => "Empty module name"
  | .relative name =>
    "the 'package' argument is required to perform a relative import for " ++ quote name
  | .noModule name => "No module named " ++ quote name
  | .noPackage name parent =>
    "No module named " ++ quote name ++ "; " ++ quote parent ++ " is not a package"
  | .noAttribute module name =>
    "module " ++ quote module ++ " has no attribute " ++ quote name
  | .noTable target kind =>
    quote target ++ " resolved to " ++ kind ++ ", not a switchyard.Switch subclass"
  | .refused error => error.message

def TargetError.blame : TargetError → Blame
  | .noModuleName => .content
  | .relative _ => .kind
  | .noModule _ => .part
  | .noPackage _ _ => .part
  | .noAttribute _ _ => .part
  | .noTable _ _ => .kind
  | .refused error => error.blame

/-- A table and what it was declared with. -/
structure Target where
  catalog : Catalog
  table : RouteTable

inductive Attribute where
  | table (target : Target)
  /-- Something else, known by its kind. -/
  | other (kind : String)
  /-- Something declared, but the declaration was refused. -/
  | refused (error : DeclarationError)

/-- The kinds of what is in every module. -/
def commonKind? (name : Text) : Option String :=
  match String.ofList name with
  | "__name__" => some "str"
  | "__doc__" | "__package__" | "__loader__" | "__spec__" => some "NoneType"
  | "__dict__" | "__annotations__" => some "dict"
  | "__class__" => some "type"
  | "__delattr__" | "__eq__" | "__ge__" | "__getattribute__" | "__gt__" | "__hash__" | "__init__"
  | "__le__" | "__lt__" | "__ne__" | "__repr__" | "__setattr__" | "__str__" =>
    some "method-wrapper"
  | "__dir__" | "__format__" | "__getstate__" | "__init_subclass__" | "__new__" | "__reduce__"
  | "__reduce_ex__" | "__sizeof__" | "__subclasshook__" => some "builtin_function_or_method"
  | _ => none

def attributeOf? (module : Module) (name : Text) : Option Attribute :=
  match module.lookUp name with
  | some (.error error) => some (.refused error)
  | some (.ok (.table table)) => some (.table ⟨module.catalog, table⟩)
  | some (.ok (.enumeration _)) => some (.other "EnumType")
  | some (.ok (.route _ _)) => some (.other "type")
  | none => (commonKind? name).map .other

def libraryAttribute? (module : LibraryModule) (name : Text) : Option Attribute :=
  match module.kind? (String.ofList name) with
  | some kind =>
    if String.ofList name = baseTableName then
      some (.table ⟨{}, { cls := { number := 0, name }, variants := [] }⟩)
    else some (.other kind)
  | none => (commonKind? name).map .other

def splitAtColon : Text → Text × Text
  | [] => ([], [])
  | ':' :: rest => ([], rest)
  | c :: rest =>
    let (before, after) := splitAtColon rest
    (c :: before, after)

/-- A dotted name cut before each of its points, and the name itself. `before` is what has been
read of it. -/
def dottedNames (before : Text) : Text → List Text
  | [] => [before]
  | c :: rest =>
    let others := dottedNames (before ++ [c]) rest
    if c = '.' then before :: others else others

/-- A way to look up names in a module. -/
abbrev Scope := Text → Option Attribute

/-- The scope of a module, and whether other modules are inside it. -/
def scopeOf? (modules : Modules) (name : Text) : Option (Scope × Bool) :=
  match libraryModule? (String.ofList name) with
  | some module => some (libraryAttribute? module, module.isPackage)
  | none =>
    (modules.find? fun entry => entry.1 = name).map fun entry => (attributeOf? entry.2, false)

/-- The scope of the last of several modules, each inside the one before. `outer` is the name of the
module that the first of them is inside of, and whether there are modules in it. -/
def findInside (modules : Modules) (outer : Option (Text × Bool)) :
    List Text → Except TargetError Scope
  | [] => .error .noModuleName
  | name :: inner =>
    match outer, scopeOf? modules name with
    | some (parent, false), _ => .error (.noPackage name parent)
    | _, none => .error (.noModule name)
    | _, some (scope, isPackage) =>
      if inner.isEmpty then .ok scope else findInside modules (some (name, isPackage)) inner

def findModule (modules : Modules) (name : Text) : Except TargetError Scope :=
  findInside modules none (dottedNames [] name)

/-- The scope of the module that a target begins with. -/
def importModule (modules : Modules) (name : Text) : Except TargetError Scope :=
  match name with
  | [] => .error .noModuleName
  | '.' :: _ => .error (.relative name)
  | _ => findModule modules name

def findTarget (modules : Modules) (target : Text) : Except TargetError Target :=
  let (moduleName, given) := splitAtColon target
  let name := if given.isEmpty then "Route".toList else given
  match importModule modules moduleName with
  | .error error => .error error
  | .ok found =>
    match found name with
    | none => .error (.noAttribute moduleName name)
    | some (.refused error) => .error (.refused error)
    | some (.table table) => .ok table
    | some (.other kind) => .error (.noTable target kind)

end TypedRoutes.Command
