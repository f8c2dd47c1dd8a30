import ReadmeAudit.Problem
import ReadmeAudit.SectionName
import ReadmeAudit.Markdown.Walk

/-!
# Table contracts

In the table layout, the table of a section has to have certain columns and may have some others.
A `Contract` lists both, and `Contract.check` compares the header of a table with it.
-/

namespace ReadmeAudit

open Text Markdown

/-- The columns of the table of a section. -/
structure Contract where
  /-- The name of the section. -/
  name : String
  /-- The columns that the table must have. -/
  required : List String
  /-- The columns that it may have as well. -/
  optional : List String
deriving Repr, DecidableEq

namespace Contract

/-- The contracts of the sections. -/
def all : List Contract := [
  ⟨"Resources", ["Name", "Type"], []⟩,
  ⟨"Providers", ["Name", "Version"], []⟩,
  ⟨"Requirements", ["Name", "Version"], []⟩,
  ⟨"Inputs", ["Name", "Description", "Required"], ["Type", "Default"]⟩,
  ⟨"Outputs", ["Name", "Description"], []⟩]

/-- All columns of a contract. -/
def columns (contract : Contract) : List String :=
  contract.required ++ contract.optional

/-- The column of a contract that a header most likely means. -/
def suggestion? (contract : Contract) (column : String) : Option String :=
  let wanted := lower (strip column)
  if wanted.isEmpty then none
  else (contract.columns.find? fun candidate => startsWith wanted (lower candidate)).orElse
    fun _ => contract.columns.find? fun candidate => SectionName.denotes column candidate

/-- The problems of a table whose header has the given columns. -/
def check (contract : Contract) (header : List String) : List Problem :=
  (header.filter fun column => !contract.columns.contains column).map
      (fun column => .unexpectedColumn column contract.name (contract.suggestion? column))
    ++ (contract.required.filter fun column => !header.contains column).map
      (fun column => .missingColumn column contract.name)

end Contract

namespace Table

/-- The rows of the parts of a table with a kind, such as its body. -/
def rows (part : Kind) (table : Node) : List Node :=
  (table.children.filter (·.kind = part)).flatMap fun node =>
    node.children.filter (·.kind = .tableRow)

/-- The cells of a row. -/
def cells (row : Node) : List Node :=
  row.children.filter fun cell => cell.kind = .headerCell || cell.kind = .dataCell

/-- The texts of the header cells of a table, if it has a header row. -/
def header? (table : Node) : Option (List String) :=
  (rows .tableHead table).head?.map fun row => (cells row).map fun cell => strip cell.plainText

/-- The name that the first cell of a row gives, unless it is empty or repeats the header. -/
def itemName? (row : Node) : Option String :=
  match cells row with
  | [] => none
  | cell :: _ =>
    let name := strip (String.ofList ((strip cell.plainText).toList.filter (· != '\x60')))
    if name.isEmpty || name == "Name" then none else some name

/-- The names that the body rows of a table give. -/
def itemNames (table : Node) : List String :=
  (rows .tableBody table).filterMap itemName?

end Table

end ReadmeAudit
