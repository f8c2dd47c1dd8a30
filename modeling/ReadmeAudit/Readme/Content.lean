import ReadmeAudit.Distinct
import ReadmeAudit.Markdown.Document
import ReadmeAudit.Readme.Anchor
import ReadmeAudit.Readme.Contract
import ReadmeAudit.Readme.Detection

/-!
# The content of a README

A `Readme` is a README that has been read once, with an index of its sections. A section is a
heading of level 2 with the nodes after it, up to the next heading of level 2 or 1. The queries of
this module answer what the audit asks: which sections there are, which items a section documents,
which resources are linked, and whether the tables have the columns they should have. They are
stated on the sections that a name denotes, so that these may be looked up in any way.
-/

namespace ReadmeAudit

open Text Markdown

/-- A section of a README. -/
structure Section where
  /-- The position among the sections. -/
  number : Nat
  /-- The text of the heading, without surrounding blanks. -/
  title : String
  /-- The siblings after the heading. -/
  after : List Node

namespace Section

/-- The visitor that collects the headings of level 2, last first, and does not look into
headings. -/
def collect : Visitor (List Place) := fun place found =>
  match place.node.headingLevel? with
  | none => (.descend, found)
  | some level => (.skip, if level = 2 then place :: found else found)

/-- The sections of a document, in order. -/
def ofRoot (root : Node) : List Section :=
  (root.walk collect []).2.reverse.zipIdx.map fun (place, number) =>
    ⟨number, strip place.node.plainText, place.after⟩

/-- The nodes of a section: those after its heading, up to the next heading of level 2 or 1. -/
def body (part : Section) : List Node :=
  part.after.takeWhile fun node => !node.headingLevel?.any (· ≤ 2)

/-- The first table of a section. -/
def table? (part : Section) : Option Node :=
  part.body.find? (·.kind = .table)

/-- The name that the heading of an item gives, without brackets and the remains of an anchor. -/
def headingName (text : String) : String :=
  let name := trim (fun c => c == ' ' || c == '[' || c == ']') (strip text)
  let name := dropLead "<a name=\"output_" (dropLead "<a name=\"input_" name)
  strip (dropTail "</a>" (dropTail "\"></a>" name))

/-- The names of the items that a section documents under headings of level 3. -/
def headingItems (part : Section) : List String :=
  (part.body.filter (·.isHeadingOf 3)).filterMap fun node =>
    let name := headingName node.plainText
    if name.isEmpty then none else some name

/-- The names of the items that a section documents in a layout. -/
def items (layout : Layout) (part : Section) : List String :=
  match layout with
  | .document => part.headingItems
  | .table => (part.table?.map Table.itemNames).getD []

/-- The problems of the table of a section with a contract. -/
def tableProblems (contract : Contract) (part : Section) : List Problem :=
  match part.table? with
  | none => [.missingTable contract.name]
  | some table =>
    match Table.header? table with
    | none => [.missingHeaderRow contract.name]
    | some header => contract.check header

/-- The sections that several names denote, in the order of the names, each once. -/
def merge (found : List (List Section)) : List Section :=
  distinctBy number found.flatten

end Section

/-- The resources and data sources that a README documents or a module declares. -/
structure Inventory where
  /-- The resources. -/
  resources : List String
  /-- The data sources. -/
  dataSources : List String
deriving Repr, DecidableEq

/-- A README that has been read. -/
structure Readme where
  /-- The source text. -/
  source : String
  /-- The tree. -/
  root : Node
  /-- The beginnings of the names of resources, in lower case. -/
  prefixes : List String
  /-- The sections. -/
  sections : List Section
  /-- The detection of the layout, if it was not given. -/
  detection : Option Detection
  /-- The layout. -/
  layout : Layout
  /-- The sections are those of the tree. -/
  sections_eq : sections = Section.ofRoot root

namespace Readme

/-- The README of a source text. -/
def read (source : String) (format : Format) (prefixes : List String) : Readme :=
  let root := Markdown.parse source
  let detection := match format with
    | .auto => some (detect root)
    | .fixed _ => none
  ⟨source, root, (prefixes.filter (!·.isEmpty)).map lower, Section.ofRoot root, detection,
    (detection.map (·.layout)).getD format.layout, rfl⟩

/-- The texts of the headings of the sections that have one. -/
def titles (readme : Readme) : List String :=
  (readme.sections.map (·.title)).filter (!·.isEmpty)

/-- The sections that a name denotes. -/
def denoted (readme : Readme) (name : String) : List Section :=
  if (strip name).isEmpty then []
  else readme.sections.filter fun found => SectionName.denotes found.title name

/-! ### Anchors -/

/-- The anchors, each by its type and its name in lower case. -/
def anchors (readme : Readme) : List (AnchorType × String) :=
  AnchorType.all.flatMap fun type =>
    (Anchor.names type readme.source).map fun name => (type, lower name)

/-- The number of different names of anchors. -/
def anchorCount (readme : Readme) : Nat :=
  (readme.anchors.map (·.2)).eraseDups.length

/-- The names of the anchors of the types that names of sections mention, each once. -/
def anchoredItems (readme : Readme) (names : List String) : List String :=
  ((AnchorType.all.filter fun type => names.any type.isMentionedIn).flatMap fun type =>
    Anchor.names type readme.source).eraseDups

/-- Whether anchors contradict an item of a type: there are some of its name, and none of them is of
the type. -/
def contradicts (anchors : List (AnchorType × String)) (expected : AnchorType) (item : String) :
    Bool :=
  let types := (anchors.filter (·.2 == lower item)).map (·.1)
  !types.isEmpty && !types.contains expected

/-- The items whose anchors do not contradict what names of sections mention. -/
def agreeing (readme : Readme) (names items : List String) : List String :=
  match AnchorType.expectedBy names with
  | none => items
  | some expected =>
    let anchors := readme.anchors
    items.filter fun item => !contradicts anchors expected item

/-! ### Items -/

/-- The items that sections document, or, if there are none, those that anchors name. -/
def candidates (readme : Readme) (names : List String) (found : List Section) : List String :=
  if found.isEmpty then readme.anchoredItems names
  else found.flatMap (·.items readme.layout)

/-- The items that the sections found under names document. -/
def itemsIn (readme : Readme) (names : List String) (found : List (List Section)) : List String :=
  readme.agreeing names (readme.candidates names (Section.merge found))

/-! ### Resources -/

/-- Whether a link text begins like the name of a resource. -/
def namesResource (readme : Readme) (text : String) : Bool :=
  let lowered := lower text
  readme.prefixes.any (startsWith · lowered)

/-- Whether a link leads to the page of a data source. -/
def leadsToDataSource : Kind → Bool
  | .link destination => occursIn "/data-sources/" destination
  | _ => false

/-- Whether a node is a link. -/
def isLink : Kind → Bool
  | .link _ => true
  | _ => false

/-- The names that a link text gives: the full name and its base. -/
def linkNames (text : String) : List String :=
  let name := dropLead "[" (before ']' text)
  [name, before '.' name]

/-- The links in the bodies of sections, or in the whole document if there are no sections. -/
def links (readme : Readme) (found : List Section) : List Node :=
  let places := if found.isEmpty then readme.root.find isLink
    else found.flatMap fun part => part.body.flatMap (·.find isLink)
  places.map (·.node)

/-- A list with an element added unless it is there. -/
def addNew (names : List String) (name : String) : List String :=
  if names.contains name then names else names ++ [name]

/-- The inventory with what a link documents. -/
def addLink (readme : Readme) (inventory : Inventory) (link : Node) : Inventory :=
  let text := link.plainText
  if readme.namesResource text then
    let names := linkNames text
    if leadsToDataSource link.kind then
      { inventory with dataSources := names.foldl addNew inventory.dataSources }
    else { inventory with resources := names.foldl addNew inventory.resources }
  else inventory

/-- What the links in the bodies of the sections for resources document, unless that is
nothing. -/
def inventoryIn (readme : Readme) (found : List Section) : Except ExtractionError Inventory :=
  let inventory := (readme.links found).foldl readme.addLink ⟨[], []⟩
  if inventory.resources.isEmpty && inventory.dataSources.isEmpty then .error .noResources
  else .ok inventory

/-! ### Queries by name -/

/-- Whether a name denotes a section. -/
def hasSection (readme : Readme) (name : String) : Bool :=
  !(readme.denoted name).isEmpty

/-- The items that the sections of some names document. -/
def items (readme : Readme) (names : List String) : List String :=
  readme.itemsIn names (names.map readme.denoted)

/-- The resources and data sources that the README documents. -/
def inventory (readme : Readme) : Except ExtractionError Inventory :=
  readme.inventoryIn (Section.merge [readme.denoted "Resources"])

/-- The problems of the tables of the sections with contracts. -/
def tableProblems (readme : Readme) : List Problem :=
  Contract.all.flatMap fun contract =>
    (readme.denoted contract.name).flatMap (Section.tableProblems contract)

end Readme

end ReadmeAudit
