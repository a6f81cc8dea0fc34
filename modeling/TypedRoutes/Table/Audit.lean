import TypedRoutes.Table.Resolution

/-!
Contract: finding weak spots of a table.

Reported are a table without classes, classes that an earlier one with the same pattern and settings
hides, fields of a type no text converts to, captured names that no field takes, and captures of
classes without fields.

Owns: issues, the audit of a table and its summary in plain lines.
-/

set_option autoImplicit false

namespace TypedRoutes.Table

open TypedRoutes.Matching TypedRoutes.Text

inductive Severity where
  | error
  | warning
  | info
deriving DecidableEq, Repr

def Severity.word : Severity → String
  | .error => "ERROR"
  | .warning => "WARNING"
  | .info => "INFO"

/-- A weak spot of a table. -/
structure Issue where
  severity : Severity
  category : String
  message : String
  route : Option String := none
  details : Option String := none
deriving DecidableEq, Repr

/-- What an audit has looked at and found. The counts are shown as they are given. -/
structure Report where
  issues : List Issue
  variants : Int
  captures : Int
deriving DecidableEq, Repr

namespace Report

def ofSeverity (report : Report) (severity : Severity) : List Issue :=
  report.issues.filter (·.severity = severity)

def isClean (report : Report) : Bool :=
  (report.ofSeverity .error).isEmpty

def nonempty? (text : Option String) : Option String :=
  text.filter (· ≠ "")

def issueLines (issue : Issue) : List String :=
  let place := ((nonempty? issue.route).map (" in " ++ ·)).getD ""
  let details := (nonempty? issue.details).map ("           " ++ ·)
  ("  [" ++ issue.severity.word ++ "] " ++ issue.message ++ place) :: details.toList

def summary (report : Report) : String :=
  let errors := (report.ofSeverity .error).length
  let warnings := (report.ofSeverity .warning).length
  let verdict :=
    if 0 < errors then s!"{errors} error(s), {warnings} warning(s)."
    else if 0 < warnings then s!"No errors. {warnings} warning(s)."
    else "No issues found."
  "\n".intercalate
    (s!"Checked {report.variants} routes with {report.captures} captures." :: verdict ::
      report.issues.flatMap issueLines)

end Report

/-- Whether a field can take a captured text: its type has a converter, or routes of its own. -/
def Field.isFillable (nested : ClassRef → Option Resolver) (field : Field) : Bool :=
  field.isState || (nestedResolver? nested field.kind).isSome || field.kind.converter?.isSome

namespace Variant

def name (variant : Variant) : String :=
  String.ofList variant.route.cls.name

def pattern (variant : Variant) : String :=
  String.ofList variant.matcher.text

/-- Whether another variant matches the same routes by the same tokens and settings. -/
def sameMatch (variant other : Variant) : Bool :=
  variant.matcher.pattern = other.matcher.pattern &&
    variant.matcher.settings = other.matcher.settings

/-- The issue of a class that an earlier one hides. -/
def hiddenIssue (earlier : List Variant) (variant : Variant) : List Issue :=
  match earlier.find? variant.sameMatch with
  | none => []
  | some first =>
    [{ severity := .warning
       category := "unreachable"
       message := variant.name ++ " can never be selected."
       route := some variant.pattern
       details := some (first.name ++ " declares the same pattern earlier.") }]

def unfillable (nested : ClassRef → Option Resolver) (variant : Variant) : List Field :=
  variant.route.arguments.filter fun field => !field.isFillable nested

def fieldIssue (variant : Variant) (field : Field) : Issue where
  severity := .error
  category := "field"
  message := s!"{variant.name}.{String.ofList field.name} has a type no capture converts to."
  route := some variant.pattern
  details := some ("Annotation: " ++ String.ofList field.kind.shown)

def fieldIssues (nested : ClassRef → Option Resolver) (variant : Variant) : List Issue :=
  (variant.unfillable nested).map variant.fieldIssue

/-- The issues of captures that go nowhere. -/
def captureIssues (variant : Variant) : List Issue :=
  match variant.route.layout with
  | .named =>
    let fields := variant.route.arguments.map (·.name)
    let unused := variant.matcher.names.filter fun name => !fields.contains name
    if unused.isEmpty then []
    else
      [{ severity := .warning
         category := "capture"
         message :=
           variant.name ++ " ignores captures: " ++ String.ofList (join [',', ' '] unused) ++ "."
         route := some variant.pattern }]
  | .unit =>
    if variant.matcher.captureCount = 0 && variant.matcher.names.isEmpty then []
    else
      [{ severity := .info
         category := "capture"
         message := variant.name ++ " has no fields; captured values are discarded."
         route := some variant.pattern }]
  | .positional => []

end Variant

/-- The issues of variants, with those that come before them. -/
def variantIssues (nested : ClassRef → Option Resolver) (earlier : List Variant) :
    List Variant → List Issue
  | [] => []
  | variant :: rest =>
    variant.hiddenIssue earlier ++ variant.fieldIssues nested ++ variant.captureIssues ++
      variantIssues nested (earlier ++ [variant]) rest

/-- The number of names that variants capture, each counted in every variant that has it. -/
def captureTotal (variants : List Variant) : Nat :=
  variants.foldl (fun count variant => count + variant.matcher.names.length) 0

def Catalog.audit (catalog : Catalog) (table : RouteTable) : Report where
  issues :=
    if table.variants.isEmpty then
      [{ severity := .error
         category := "setup"
         message := String.ofList table.cls.name ++ " declares no routes." }]
    else variantIssues catalog.nested [] table.variants
  variants := table.variants.length
  captures := captureTotal table.variants

end TypedRoutes.Table
