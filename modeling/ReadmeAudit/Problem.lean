import ReadmeAudit.Files.Fault

/-!
# Problems

A `Problem` is a finding of an audit: the README and the module disagree, a section or a file is
missing, or something could not be read. Its `kind` is the category under which it is reported,
and `message` its wording.
-/

namespace ReadmeAudit

/-- Why the declared or the documented items could not be determined. -/
inductive ExtractionError where
  /-- The README links no resource. -/
  | noResources
  /-- A module file could not be read. -/
  | unreadable (file : String) (fault : Files.Fault)
  /-- A module file is not well formed. -/
  | malformed (file : String)
deriving Repr, DecidableEq

/-- The wording of an extraction error. -/
def ExtractionError.message : ExtractionError → String
  | noResources => "resources section not found or empty"
  | unreadable file fault => "error reading file " ++ file ++ ": " ++ fault.message
  | malformed file => "error parsing HCL in " ++ file

/-- The category of a problem. -/
inductive ProblemKind where
  /-- An item of the module that the README does not document. -/
  | missingInMarkdown
  /-- An item of the README that the module does not declare. -/
  | missingInTerraform
  /-- A section that is not there. -/
  | missingSection
  /-- A section whose heading is misspelled. -/
  | misspelledSection
  /-- A table without the columns it should have. -/
  | malformedTable
  /-- Items that could not be determined. -/
  | extractionFailure
  /-- A file that is missing, empty or not accessible. -/
  | file
  /-- An address that does not answer. -/
  | url
deriving Repr, DecidableEq

/-- The name of a category in a report. -/
def ProblemKind.name : ProblemKind → String
  | missingInMarkdown => "missing_in_markdown"
  | missingInTerraform => "missing_in_terraform"
  | missingSection => "missing_section"
  | misspelledSection => "misspelled_section"
  | malformedTable => "malformed_table"
  | extractionFailure => "extraction_failure"
  | file => "file"
  | url => "url"

/-- Who asks for a section. -/
inductive Demand where
  /-- Every README must have it. -/
  | required
  /-- The options ask for it. -/
  | additional
deriving Repr, DecidableEq

/-- The word for a demand. -/
def Demand.name : Demand → String
  | required => "required"
  | additional => "additional"

/-- A finding of an audit. -/
inductive Problem where
  /-- An item of a type is declared and not documented. -/
  | undocumented (itemType item : String)
  /-- An item of a type is documented and not declared. -/
  | undeclared (itemType item : String)
  /-- A section is missing. -/
  | missingSection (demand : Demand) (name : String)
  /-- A heading misspells the name of a section. -/
  | misspelledSection (found name : String)
  /-- No table follows the heading of a section. -/
  | missingTable (name : String)
  /-- The table of a section has no header row. -/
  | missingHeaderRow (name : String)
  /-- The table of a section has a column that does not belong there. -/
  | unexpectedColumn (column name : String) (suggestion : Option String)
  /-- The table of a section lacks a column. -/
  | missingColumn (column name : String)
  /-- Items could not be determined. -/
  | extraction (error : ExtractionError)
  /-- A file does not exist. -/
  | missingFile (file : String)
  /-- A file is not accessible. -/
  | inaccessibleFile (file : String) (fault : Files.Fault)
  /-- A file is empty. -/
  | emptyFile (file : String)
  /-- A request failed. -/
  | failedRequest (url reason : String)
  /-- A request was answered by another status than success. -/
  | badStatus (url : String) (status : Int)
deriving Repr, DecidableEq

namespace Problem

/-- The category of a problem. -/
def kind : Problem → ProblemKind
  | undocumented .. => .missingInMarkdown
  | undeclared .. => .missingInTerraform
  | missingSection .. => .missingSection
  | misspelledSection .. => .misspelledSection
  | missingTable _ | missingHeaderRow _ | unexpectedColumn .. | missingColumn .. =>
    .malformedTable
  | extraction _ => .extractionFailure
  | missingFile _ | inaccessibleFile .. | emptyFile _ => .file
  | failedRequest .. | badStatus .. => .url

/-- The wording of a problem. -/
def message : Problem → String
  | undocumented itemType item =>
    itemType ++ " in Terraform but missing in markdown: " ++ item
  | undeclared itemType item =>
    itemType ++ " in markdown but missing in Terraform: " ++ item
  | missingSection demand name => demand.name ++ " section missing: '" ++ name ++ "'"
  | misspelledSection found name =>
    "section '" ++ found ++ "' appears to be misspelled (should be '" ++ name ++ "')"
  | missingTable name => "missing table after header: " ++ name
  | missingHeaderRow name => "table has no header row under header: " ++ name
  | unexpectedColumn column name suggestion =>
    "unexpected column '" ++ column ++ "' in table under header: " ++ name
      ++ match suggestion with
        | some meant => " (did you mean '" ++ meant ++ "'?)"
        | none => ""
  | missingColumn column name =>
    "missing required column '" ++ column ++ "' in table under header: " ++ name
  | extraction error => error.message
  | missingFile file => "file does not exist: " ++ file
  | inaccessibleFile file fault => "error accessing file: " ++ file ++ ": " ++ fault.message
  | emptyFile file => "file is empty: " ++ file
  | failedRequest url reason => "error accessing URL: " ++ url ++ ": " ++ reason
  | badStatus url status =>
    "URL returned non-OK status: " ++ url ++ ": Status: " ++ toString status

end Problem

end ReadmeAudit
