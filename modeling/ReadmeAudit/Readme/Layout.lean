import ReadmeAudit.Text.Blank
import ReadmeAudit.Text.Case

/-!
# Layouts

A README documents the items of a module either as rows of tables or under headings of their own.
A `Layout` is one of the two, and a `Format` is what the options ask for: a layout, or that it be
detected.
-/

namespace ReadmeAudit

open Text

/-- A way of documenting items. -/
inductive Layout where
  /-- Under a heading for each item. -/
  | document
  /-- In a row of a table for each item. -/
  | table
deriving Repr, DecidableEq

/-- The layout that the options ask for. -/
inductive Format where
  /-- A layout. -/
  | fixed (layout : Layout)
  /-- The layout that the README shows. -/
  | auto
deriving Repr, DecidableEq

/-- The name of a layout. -/
def Layout.name : Layout → String
  | document => "document"
  | table => "table"

namespace Format

/-- The name of a format. -/
def name : Format → String
  | fixed layout => layout.name
  | auto => "auto"

/-- The formats. -/
def all : List Format := [fixed .document, fixed .table, auto]

/-- The format of a name, in any case and with blanks around it. -/
def ofName? (name : String) : Option Format :=
  let wanted := lower (strip name)
  all.find? (·.name == wanted)

/-- The layout of a format, which is that of headings as long as nothing is known. -/
def layout : Format → Layout
  | fixed layout => layout
  | auto => .document

end Format

/-! ### Sections -/

/-- The sections that a README must have in a layout. -/
def Layout.requiredSections (layout : Layout) : List String :=
  ["Resources", "Providers", "Requirements"] ++ match layout with
    | .table => ["Inputs", "Outputs"]
    | .document => ["Required Inputs", "Optional Inputs", "Outputs"]

/-- The sections that document the input variables in a layout. -/
def Layout.inputSections : Layout → List String
  | table => ["Inputs"]
  | document => ["Required Inputs", "Optional Inputs"]

end ReadmeAudit
