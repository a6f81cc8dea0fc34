import TypedRoutes.Display.Palette
import TypedRoutes.Table.Audit

/-!
Contract: the display of an audit on a terminal.

A banner with the title, the counts, the issues with the gravest first, the verdict and a rule.

Owns: the display of reports.
-/

set_option autoImplicit false

namespace TypedRoutes.Display

open TypedRoutes.Table

/-- The width of the banner and of the rule below. -/
def bannerWidth : Nat := 65

def rule (width : Nat) : String :=
  "".pushn '─' width

def Palette.mark (palette : Palette) : Severity → String
  | .error => palette.paint (palette.red ++ palette.bold) "✗"
  | .warning => palette.paint palette.yellow "▲"
  | .info => palette.paint palette.dim "·"

/-- The lines of an issue, with an empty one at the end. -/
def Palette.issueLines (palette : Palette) (issue : Issue) : List String :=
  let headline :=
    "  " ++ palette.mark issue.severity ++ "  " ++ palette.paint palette.bold issue.message
  let route :=
    (Report.nonempty? issue.route).map fun text =>
      "     " ++ palette.paint palette.dim "route" ++ " " ++ palette.paint palette.cyan text
  let details :=
    (Report.nonempty? issue.details).map fun text => "     " ++ palette.paint palette.dim text
  headline :: route.toList ++ details.toList ++ [""]

/-- A count with its noun, in the plural unless it is one. -/
def counted (count : Nat) (noun : String) : String :=
  s!"{count} {noun}" ++ (if count = 1 then "" else "s")

def Palette.dot (palette : Palette) : String :=
  " " ++ palette.paint palette.dim "·" ++ " "

def Palette.verdict (palette : Palette) (report : Report) : String :=
  let errors := (report.ofSeverity .error).length
  let warnings := (report.ofSeverity .warning).length
  let warned := palette.dot ++ palette.paint palette.yellow (counted warnings "warning")
  let passed (text : String) :=
    "  " ++ palette.paint (palette.green ++ palette.bold) "✓" ++ "  " ++
      palette.paint palette.green text
  if 0 < errors then
    "  " ++ palette.paint (palette.red ++ palette.bold) "✗" ++ "  " ++
      palette.paint palette.red (counted errors "error") ++ warned
  else if 0 < warnings then passed "No errors" ++ warned
  else passed "All clear"

def Palette.report (palette : Palette) (title : String) (report : Report) : String :=
  let tail := max (bannerWidth - title.length - 4) 1
  let banner :=
    "  " ++ palette.paint palette.dim (rule 2) ++ " " ++ palette.paint palette.bold title ++ " " ++
      palette.paint palette.dim (rule tail)
  let count (number : Int) (noun : String) :=
    palette.paint palette.bold (toString number) ++ " " ++ palette.paint palette.dim noun
  let counts :=
    "  " ++ count report.variants "routes" ++ palette.dot ++ count report.captures "captures"
  let issues :=
    [Severity.error, .warning, .info].flatMap fun severity =>
      (report.ofSeverity severity).flatMap palette.issueLines
  "\n".intercalate
    ([banner, "", counts, ""] ++ issues ++
      [palette.verdict report, "", "  " ++ palette.paint palette.dim (rule bannerWidth), ""])

end TypedRoutes.Display
