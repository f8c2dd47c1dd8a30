import ReadmeAudit.Report.Markup
import ReadmeAudit.Text.Wrap

/-!
# Panels

A panel is a frame as wide as the terminal, with a title in its upper edge and a marked-up text
inside.
-/

namespace ReadmeAudit.Report

open Text

/-- A character several times. -/
def run (count : Nat) (c : Char) : String :=
  String.ofList (List.replicate count c)

/-- A line cut to at most a width. -/
def cut (width : Nat) (line : String) : String :=
  if Text.width line ≤ width then line else String.ofList (takeWidth width line.toList)

/-- The upper edge of a panel of a width with a title. -/
def topEdge (width : Nat) (title : String) : String :=
  if width ≤ 4 then "╭" ++ run (width - 2) '─' ++ "╮"
  else
    let shown := (" " ++ title ++ " ").toList
    let room := width - 4
    let fitted := if widthChars shown ≤ room then shown else crop room shown
    let excess := room - widthChars fitted
    let left := excess / 2
    "╭─" ++ run left '─' ++ String.ofList fitted ++ run (excess - left) '─' ++ "─╮"

/-- The room for a text in a panel of a width. -/
def panelRoom (width : Nat) : Nat := width - 6

/-- A line of a panel of a width. -/
def panelLine (width : Nat) (chars : List Char) : String :=
  "│" ++ String.ofList (padRight (width - 2) (' ' :: ' ' :: chars)) ++ "│"

/-- The lines of the text of a panel of a width. Where there is no room the text is not looked
at. -/
def panelBody (width : Nat) (text : List Char) : Except Failure (List String) := do
  let room := panelRoom width
  if room = 0 then return []
  return (wrap .fold room (← Markup.shown text)).map fun line =>
    panelLine width (padRight room line)

/-- The lines of a panel of a width with a title and a marked-up text. -/
def panel (width : Nat) (title : String) (text : List Char) : Except Failure (List String) := do
  let blank := if width ≤ 2 then [] else ["│" ++ run (width - 2) ' ' ++ "│"]
  let body ← panelBody width text
  return [topEdge width title] ++ blank ++ body ++ blank ++ ["╰" ++ run (width - 2) '─' ++ "╯"]

end ReadmeAudit.Report
