import TypedRoutes.Text.Basic

/-!
Contract: what this library's own modules hold.

A target can name these modules as well. Of what is found there only the kind matters, and that it
is the table that all others extend where it is.

Owns: the modules, the names in them and the kinds of what the names stand for. Does not own: what
every module has, whatever is declared in it.
-/

set_option autoImplicit false

namespace TypedRoutes.Command

/-- A module of this library with the names that it holds beside those of modules inside it. -/
structure LibraryModule where
  name : String
  names : String := ""
  /-- Whether other modules are inside. -/
  isPackage : Bool := false

def wordsOf (text : String) : List String :=
  text.splitOn " "

/-- The name of the table that all others extend, in every module that holds it. -/
def baseTableName : String := "Switch"

def libraryModules : List LibraryModule :=
  [
    { name := "switchyard"
      names :=
        "__version__ __all__ __getattr__ BuildError Captures CompiledMatcher " ++
          "ConfigurationError MatcherSettings Modifier ParseError ParserErrorReason Route " ++
          "Switch SwitchyardError build_route check_switch compile resolve state_field to"
      isPackage := true },
    { name := "switchyard.cli", names := "argparse logging main sys", isPackage := true },
    { name := "switchyard.cli._check", names := "argparse check_switch" },
    { name := "switchyard.cli._match", names := "argparse sys" },
    { name := "switchyard.cli._parse", names := "argparse" },
    { name := "switchyard.cli._resolve"
      names :=
        "CompiledMatcher MatcherSettings Modifier ParseError Switch argparse compile " ++
          "importlib sys" },
    { name := "switchyard.cli._routes", names := "argparse" },
    { name := "switchyard.cli._switch", names := "argparse sys" },
    { name := "switchyard.config"
      names := "DEFAULT_SETTINGS Flag MatcherSettings Modifier annotations auto" },
    { name := "switchyard.contracts"
      names :=
        "CheckResult ContractIssue Enum Layout Severity TYPE_CHECKING annotations " ++
          "check_switch" },
    { name := "switchyard.errors", names := "BuildError ConfigurationError SwitchyardError" },
    { name := "switchyard.matching", isPackage := true },
    { name := "switchyard.matching.captures", names := "Captures Iterator Mapping Sequence" },
    { name := "switchyard.matching.engine"
      names :=
        "Capture Captures End Exact INVALID_CAPTURE_CHARS INVALID_MANY_CAPTURE_CHARS " ++
          "MatcherSettings MatcherToken OptionalGroup Sequence logger logging" },
    { name := "switchyard.matching.matcher"
      names :=
        "Capture Captures CompiledMatcher MatcherSettings MatcherToken Modifier Token " ++
          "annotations compile logger logging" },
    { name := "switchyard.parsing", isPackage := true },
    { name := "switchyard.parsing.errors"
      names :=
        "CAPTURE_KINDS Enum ExpectedToken ParseError ParserErrorReason QUERY_PAIR_KINDS " ++
          "SwitchyardError annotations" },
    { name := "switchyard.parsing.grammar"
      names :=
        "CAPTURE_KINDS Capture End Enum ExpectedToken FragmentBegin INITIAL_STATE Literal " ++
          "OptionalGroup ParserErrorReason ParserState QUERY_PAIR_KINDS QUERY_SECTIONS " ++
          "QueryBegin QueryCapture QuerySeparator Section Separator Token TransitionError " ++
          "annotations" },
    { name := "switchyard.parsing.lexer"
      names :=
        "Capture ExpectedToken ManyNamed ManyUnnamed Named NumberedNamed NumberedUnnamed " ++
          "ParseError ParserErrorReason QUERY_PAIR_KINDS QueryCapture RESERVED Unnamed" },
    { name := "switchyard.parsing.optimizer"
      names :=
        "Capture End Exact FragmentBegin Iterable Literal MatcherToken OptionalGroup " ++
          "QueryBegin QueryCapture QuerySeparator Separator Sequence Token" },
    { name := "switchyard.parsing.parser"
      names :=
        "End ExpectedToken FragmentBegin INITIAL_STATE Literal OptionalGroup ParseError " ++
          "ParserErrorReason ParserState QUERY_SECTIONS QueryBegin QuerySeparator Separator " ++
          "Token TransitionError lexer logger logging" },
    { name := "switchyard.parsing.tokens"
      names :=
        "Capture CaptureVariant End Exact FragmentBegin Literal ManyNamed ManyUnnamed " ++
          "MatcherToken Named NumberedNamed NumberedUnnamed OptionalGroup QueryBegin " ++
          "QueryCapture QuerySeparator Separator Token Unnamed" },
    { name := "switchyard.route", names := "Any Route" },
    { name := "switchyard.switch", isPackage := true },
    { name := "switchyard.switch.binding"
      names :=
        "Any Callable Captures Enum FieldSpec Layout STATE_KEY StateSlot Unbindable " ++
          "annotations dataclasses state_field typing" },
    { name := "switchyard.switch.converters"
      names := "Any CONVERTERS Callable Enum Union functools types uuid" },
    { name := "switchyard.switch.resolver"
      names :=
        "Any BuildError Callable Capture ClassVar CompiledMatcher ConfigurationError End " ++
          "FieldSpec FragmentBegin Layout Literal MatcherSettings Modifier OptionalGroup " ++
          "QueryBegin QueryCapture QuerySeparator Route Separator StateSlot Switch Token " ++
          "Unbindable Variant annotations build_route compile logger logging resolve to" },
    { name := "switchyard.terminal", names := "Severity TYPE_CHECKING annotations sys" }]

/-- The names in modules of this library by the kind of what they stand for, classes of no kind of
their own apart. -/
def namesByKind : List (String × String) :=
  [
    ("function", "__getattr__ build_route check_switch compile main resolve state_field to"),
    ("ABCMeta", "Callable Captures Iterable Iterator Mapping Sequence"),
    ("EnumType", "Enum ExpectedToken Flag Layout Modifier ParserErrorReason Section Severity"),
    ("UnionType", "CaptureVariant MatcherToken Token"),
    ("_AnyMeta", "Any"),
    ("_SpecialForm", "ClassVar Union"),
    ("_Feature", "annotations"),
    ("Logger", "logger"),
    ("str", "STATE_KEY __version__"),
    ("bool", "TYPE_CHECKING"),
    ("list", "__all__"),
    ("dict", "CONVERTERS"),
    ("frozenset",
      "CAPTURE_KINDS INVALID_CAPTURE_CHARS INVALID_MANY_CAPTURE_CHARS QUERY_PAIR_KINDS " ++
        "QUERY_SECTIONS RESERVED"),
    ("MatcherSettings", "DEFAULT_SETTINGS"),
    ("ParserState", "INITIAL_STATE"),
    ("module",
      "argparse dataclasses functools importlib lexer logging sys types typing uuid")]

def libraryModule? (name : String) : Option LibraryModule :=
  libraryModules.find? fun module => module.name = name

/-- The kind of what a module of this library has under a name, unless every module has it. -/
def LibraryModule.kind? (module : LibraryModule) (name : String) : Option String :=
  if (libraryModule? (module.name ++ "." ++ name)).isSome && !name.contains '.' then some "module"
  else if (wordsOf module.names).contains name then
    ((namesByKind.find? fun entry => (wordsOf entry.2).contains name).map (·.1)).getD "type"
  else
    match name with
    | "__doc__" | "__package__" | "__file__" | "__cached__" => some "str"
    | "__builtins__" => some "dict"
    | "__loader__" => some "SourceFileLoader"
    | "__spec__" => some "ModuleSpec"
    | "__path__" => if module.isPackage then some "list" else none
    | _ => none

end TypedRoutes.Command
