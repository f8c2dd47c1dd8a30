import ReadmeAudit.Trace

/-!
# The check of the sections

Every section that is asked for needs a heading of its name. A heading that looks like the name and
is not needed for another section is taken for a misspelling of it, and otherwise the section is
missing. In the table layout the columns of the tables are checked as well.
-/

namespace ReadmeAudit.Check

/-- What is found for a section. -/
inductive Verdict where
  /-- A heading of its name. -/
  | exact
  /-- A heading that looks like its name. -/
  | misspelled (found : String)
  /-- Nothing. -/
  | missing
deriving Repr, DecidableEq

/-- The state of the assignment of headings to sections. -/
structure Assignment where
  /-- The headings that are taken. -/
  claimed : List String
  /-- The sections that are missing. -/
  missing : List String
  /-- The problems so far, in order. -/
  problems : List Problem
deriving Repr, DecidableEq

namespace Assignment

/-- The beginning, with nothing assigned. -/
def empty : Assignment := ⟨[], [], []⟩

/-- What the headings of a README hold for a section. -/
def verdict (assignment : Assignment) (titles : List String) (name : String) : Verdict :=
  if titles.contains name then .exact
  else
    match titles.find? fun found =>
        !assignment.claimed.contains found && SectionName.resembles found name with
    | some found => .misspelled found
    | none => .missing

/-- The assignment with one section more. -/
def add (demand : Demand) (titles : List String) (assignment : Assignment) (name : String) :
    Assignment :=
  match assignment.verdict titles name with
  | .exact => { assignment with claimed := name :: assignment.claimed }
  | .misspelled found =>
    { assignment with
      claimed := found :: assignment.claimed
      problems := assignment.problems ++ [.misspelledSection found name] }
  | .missing =>
    { assignment with
      missing := if demand = .required then name :: assignment.missing else assignment.missing
      problems := assignment.problems ++ [.missingSection demand name] }

/-- Whether a section has been dealt with: its name is a heading that is taken, or it is missing. -/
def covers (assignment : Assignment) (name : String) : Bool :=
  assignment.claimed.contains name || assignment.missing.contains name

/-- The assignment with an additional section, unless that has been dealt with. -/
def addNew (titles : List String) (assignment : Assignment) (name : String) : Assignment :=
  if assignment.covers name then assignment else assignment.add .additional titles name

end Assignment

/-- The problems of headings with the sections that are required and additional. -/
def sectionProblems (titles required additional : List String) : List Problem :=
  (additional.foldl (Assignment.addNew titles)
    (required.foldl (Assignment.add .required titles) .empty)).problems

/-- The check of the sections of a README. -/
def sections (readme : Readme) (additional : List String) : Audit (List Problem) := do
  let headings := sectionProblems readme.titles readme.layout.requiredSections additional
  let tables ← match readme.layout with
    | .table => Audit.ask (Session.tableProblems readme)
    | .document => pure []
  let problems := headings ++ tables
  Audit.note (.sectionsChecked problems.length)
  return problems

end ReadmeAudit.Check
