import ReadmeAudit.Item.Reconciliation
import ReadmeAudit.Terraform.Module
import ReadmeAudit.Trace

/-!
# The checks of the items

These checks compare what a module declares with what its README documents: its variables and
outputs with the sections for them, and its resources and data sources with the links of the README.
-/

namespace ReadmeAudit.Check

open Text Files Terraform

/-- The comparison of declared and documented names of a type. -/
def compare (declared documented : List String) (itemType : String) : Audit (List Problem) := do
  let comparison := Reconciliation.ofNames declared documented
  let problems := comparison.problems itemType
  Audit.note (.reconciled itemType comparison.declared.size comparison.documented.size
    problems.length)
  return problems

/-! ### Variables and outputs -/

/-- A type of items that blocks declare and sections document. -/
structure ItemType where
  /-- The name in the wording of problems. -/
  name : String
  /-- The type of the blocks. -/
  blockType : String
  /-- The names of the sections. -/
  sections : List String
  /-- The file with the blocks. -/
  file : String
deriving Repr, DecidableEq

namespace ItemType

/-- The input variables of a README in a layout. -/
def inputs (layout : Layout) : ItemType :=
  ⟨"Variables", "variable", layout.inputSections, "variables.tf"⟩

/-- The outputs. -/
def outputs : ItemType :=
  ⟨"Outputs", "output", ["Outputs"], "outputs.tf"⟩

/-- The name of the check of a type. -/
def checkName (type : ItemType) : String :=
  lower type.name

end ItemType

/-- The items that the sections of some names document, with a note if none of them was found. -/
def documentedItems (readme : Readme) (names : List String) : Audit (List String) := do
  let found ← Audit.ask (Session.denotedAll readme names)
  if (Section.merge found).isEmpty then
    Audit.note (.anchorsUsed names (readme.anchoredItems names).length)
  return readme.itemsIn names found

/-- The items that the module declares, or why they could not be determined. Any other failure is
passed on. -/
def declaredOr {α : Type} (declared : Audit α) : Audit (Except ExtractionError α) :=
  tryCatch (do pure (.ok (← declared))) fun
    | .extraction error => pure (.error error)
    | failure => throw failure

/-- The check of the items of a type. There is nothing to check if none is declared and no section
is for them. -/
def items (readme : Readme) (module : Module) (files : FileSystem) (type : ItemType) :
    Audit (List Problem) := do
  match ← declaredOr (Module.items files (module.itemFile (.ofText type.file)) type.blockType) with
  | .error error => return [.extraction error]
  | .ok declared =>
    let present ← Audit.ask (Session.hasAnySection readme type.sections)
    if !present && declared.isEmpty then
      Audit.note (.noItems type.name type.blockType)
      return []
    let documented ← documentedItems readme type.sections
    compare declared documented type.name

/-! ### Resources and data sources -/

/-- The resources and data sources that the README documents, with a note if there are some. -/
def documentedInventory (readme : Readme) : Audit (Except ExtractionError Inventory) := do
  let found ← Audit.ask (Session.inventory readme)
  if let .ok inventory := found then
    Audit.note (.linksRead inventory.resources.length inventory.dataSources.length)
  return found

/-- The comparison of two inventories. -/
def compareInventories (declared documented : Inventory) : Audit (List Problem) := do
  let resources ← compare declared.resources documented.resources "Resources"
  let dataSources ← compare declared.dataSources documented.dataSources "Data Sources"
  return resources ++ dataSources

/-- The check of the resources and data sources. A README that documents none is a problem if the
module declares some, or if there is a section for them. -/
def resources (readme : Readme) (module : Module) (files : FileSystem) : Audit (List Problem) := do
  match ← declaredOr (module.inventory files) with
  | .error error => return [.extraction error]
  | .ok declared =>
    match ← documentedInventory readme with
    | .ok documented => compareInventories declared documented
    | .error error =>
      if !declared.resources.isEmpty || !declared.dataSources.isEmpty then
        compareInventories declared ⟨[], []⟩
      else if ← Audit.ask (Session.hasSection readme "Resources") then
        return [.extraction error]
      else
        Audit.note .noResources
        return []

end ReadmeAudit.Check
