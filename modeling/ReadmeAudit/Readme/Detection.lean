import ReadmeAudit.SectionName
import ReadmeAudit.Markdown.Walk
import ReadmeAudit.Readme.Layout

/-!
# Detection of the layout

`detect` tells from the tree of a README which layout it has. Each section with a known name scores
for tables when a table follows its heading, and for headings when a heading of level 3 follows it,
perhaps after a paragraph. A heading of level 3 anywhere adds two points for headings. If that
leaves a tie, code that names a structured type adds a point for headings, and more than one table
a point for tables. Headings win a tie that remains.
-/

namespace ReadmeAudit

open Text Markdown

/-- The scores of the two layouts. -/
structure Scores where
  /-- The points for tables. -/
  table : Nat
  /-- The points for headings. -/
  heading : Nat
deriving Repr, DecidableEq

/-- The outcome of a detection. -/
structure Detection where
  /-- The layout that was detected. -/
  layout : Layout
  /-- The final scores. -/
  scores : Scores
deriving Repr, DecidableEq

namespace Detection

/-- How clearly the scores differ, from 0 to 1. -/
def confidence (detection : Detection) : Rat :=
  let ⟨table, heading⟩ := detection.scores
  if table + heading = 0 then 0
  else ((max table heading - min table heading : Nat) : Rat) / ((table + heading : Nat) : Rat)

/-- The names of the sections that score. -/
def knownSections : List String :=
  ["Inputs", "Required Inputs", "Optional Inputs", "Outputs", "Resources", "Requirements",
    "Providers"]

/-- Whether a heading denotes a section that scores. -/
def isKnown (title : String) : Bool :=
  knownSections.any (SectionName.denotes title)

/-- The layout that the nodes after the heading of a section show. -/
def shown? : (after : List Node) → Option Layout
  | [] => none
  | next :: rest =>
    if next.kind = .table then some .table
    else
      let item := if next.kind = .paragraph then rest.head? else some next
      if item.any (·.isHeadingOf 3) then some .document else none

/-- What is counted during the walk over a tree. -/
structure Count where
  /-- The points of the sections. -/
  scores : Scores
  /-- Whether a heading of level 3 was met. -/
  hasItemHeading : Bool
deriving DecidableEq

/-- The visitor that counts. It does not look into headings. -/
def tally : Visitor Count := fun place count =>
  match place.node.headingLevel? with
  | none => (.descend, count)
  | some level =>
    if level = 3 then (.skip, { count with hasItemHeading := true })
    else if level = 2 && isKnown place.node.plainText then
      match shown? place.after with
      | some .table =>
        (.skip, { count with scores := { count.scores with table := count.scores.table + 1 } })
      | some .document =>
        (.skip, { count with scores := { count.scores with heading := count.scores.heading + 1 } })
      | none => (.skip, count)
    else (.skip, count)

/-- The texts by which code names a structured type. -/
def typeWords : List String := ["object(", "list(", "map("]

/-- Whether a code block names a structured type. -/
def namesType : Kind → Bool
  | .fence content | .codeBlock content => typeWords.any (occursIn · content)
  | _ => false

/-- Whether a node is a code block between fences. -/
def isFence : Kind → Bool
  | .fence _ => true
  | _ => false

/-- Whether a node is an indented code block. -/
def isIndentedCode : Kind → Bool
  | .codeBlock _ => true
  | _ => false

/-- Whether an outermost code block of one of the two kinds names a structured type. -/
def hasTypedCode (root : Node) : Bool :=
  [isFence, isIndentedCode].any fun isCode =>
    (root.find isCode).any fun place => namesType place.node.kind

/-- The final scores of a document. -/
def score (root : Node) : Scores :=
  let count := (root.walk tally ⟨⟨0, 0⟩, false⟩).2
  let scores := if count.hasItemHeading then
      { count.scores with heading := count.scores.heading + 2 }
    else count.scores
  if scores.table = scores.heading then
    let tables := (root.find (· = .table)).length
    ⟨scores.table + (if 1 < tables then 1 else 0),
      scores.heading + (if hasTypedCode root then 1 else 0)⟩
  else scores

end Detection

/-- The layout of a document. -/
def detect (root : Node) : Detection :=
  let scores := Detection.score root
  ⟨if scores.heading < scores.table then .table else .document, scores⟩

end ReadmeAudit
