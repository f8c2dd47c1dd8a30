import ReadmeAudit.Decimal.Binary
import ReadmeAudit.Problem
import ReadmeAudit.Readme.Detection
import ReadmeAudit.Report.Panel
import ReadmeAudit.Report.Table

/-!
# Reports

The report of an audit is a panel with a summary, and below it a table of the problems if there are
any. It fits the width of a terminal. The summary is marked up as a whole, with both paths in it, so
that a tag may begin in one path and end in the other. There is no report if such a tag closes
nothing, or if it has a number that cannot be read.

The report is a text without colours, and any character can be printed. A report takes as much
memory as it needs.
-/

namespace ReadmeAudit

/-- What a report is about. -/
structure Summary where
  /-- The path of the README. -/
  readme : String
  /-- The path of the module. -/
  module : String
  /-- The layout of the README. -/
  layout : Layout
  /-- The detection of the layout, if it was not given. -/
  detection : Option Detection

namespace Report

/-- The title of the panel. -/
def title : String := "readme-validator"

/-- The description of a detection. -/
def detectionText (detection : Detection) : String :=
  " (detected, confidence " ++ Decimal.fixed 2 detection.confidence ++ "; table "
    ++ toString detection.scores.table ++ ", heading " ++ toString detection.scores.heading ++ ")"

/-- The description of the layout. -/
def layoutLine (summary : Summary) : String :=
  "Format: [cyan]" ++ summary.layout.name ++ "[/cyan]"
    ++ (summary.detection.map detectionText).getD ""

/-- The result in one line. -/
def statusLine (problems : List Problem) : String :=
  if problems.isEmpty then "[green]README is consistent with the module[/green]"
  else "[red]" ++ toString problems.length ++ " problem(s) found[/red]"

/-- The text of the panel. -/
def summaryText (summary : Summary) (problems : List Problem) : List Char :=
  "README: ".toList ++ escape summary.readme ++ "\nModule: ".toList ++ escape summary.module
    ++ '\n' :: (layoutLine summary).toList ++ '\n' :: (statusLine problems).toList

/-- The row of a problem. -/
def row (number : Nat) (problem : Problem) : Except Failure (List String) := do
  return [toString number, problem.kind.name,
    String.ofList (← Markup.shown (escape problem.message))]

/-- The rows of the table. -/
def rows (problems : List Problem) : Except Failure (List (List String)) :=
  problems.zipIdx.mapM fun (problem, number) => row (number + 1) problem

/-- The lines of the table in a width. There is no table if there are no problems. -/
def tableLines (width : Nat) (problems : List Problem) : Except Failure (List String) :=
  if problems.isEmpty then .ok [] else (rows problems).map (table width)

/-- The lines of a report of a width. There are none in no width. -/
def lines (width : Nat) (summary : Summary) (problems : List Problem) :
    Except Failure (List String) := do
  if width = 0 then return []
  let above ← panel width title (summaryText summary problems)
  let below ← tableLines width problems
  return (above ++ below).map (cut width)

/-- The text of a report of a width. -/
def render (width : Nat) (summary : Summary) (problems : List Problem) : Except Failure String :=
  (lines width summary problems).map fun lines => String.join (lines.map (· ++ "\n"))

end Report

end ReadmeAudit
