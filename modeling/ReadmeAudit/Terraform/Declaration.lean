import ReadmeAudit.Failure
import ReadmeAudit.Hcl.Value
import ReadmeAudit.Readme.Content

/-!
# Declarations

A block of a module file declares an item by its labels: an input variable or an output by its only
label, a resource or a data source by its type and its name. The functions of this module read the
declared names off the fields of a file.
-/

namespace ReadmeAudit.Terraform

open Text Hcl

/-- A label without quotation marks and blanks around it. -/
def cleanLabel (label : String) : String :=
  strip (trim (· == '"') (strip label))

/-- Whether a field of a block is a label, and not a mark of the format. -/
def isLabel (name : String) : Bool :=
  !startsWith "__" name && !(cleanLabel name).isEmpty

/-- The labels at the beginning of a block, each with what stands under it. -/
def labelled : Value → List (String × Value)
  | .object fields => (fields.filter fun (name, _) => isLabel name).map fun (name, value) =>
    (cleanLabel name, value)
  | _ => []

/-- The labels at the beginning of a block. -/
def labels (block : Value) : List String :=
  (labelled block).map (·.1)

/-- The blocks of a type in a file. What is not a tuple has no blocks, and a scalar has not even
elements. -/
def blocks (fields : Fields) (type : String) : Except Failure (List Value) :=
  match fields.lookup type with
  | none => .ok []
  | some (.tuple items) => .ok items
  | some (.object _) | some .text => .ok []
  | some .scalar => .error .noElements

/-- The first labels of the blocks of a type in a file. -/
def declaredItems (fields : Fields) (type : String) : Except Failure (List String) :=
  (blocks fields type).map fun found => found.flatMap labels

/-- The names that a block with a type and a name declares: for each the type alone, and the type
with the name. -/
def definitionNames (block : Value) : List String :=
  (labelled block).flatMap fun (type, body) =>
    (labels body).flatMap fun name => [type, type ++ "." ++ name]

/-- The resources and data sources that a file declares. -/
def definitions (fields : Fields) : Except Failure Inventory := do
  let resources ← blocks fields "resource"
  let dataSources ← blocks fields "data"
  return ⟨resources.flatMap definitionNames, dataSources.flatMap definitionNames⟩

end ReadmeAudit.Terraform
