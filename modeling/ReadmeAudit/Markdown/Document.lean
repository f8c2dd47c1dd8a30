import ReadmeAudit.Markdown.Block.Reader
import ReadmeAudit.Markdown.Inline

/-!
# Reading documents

`parse` reads a Markdown document into its tree. The blocks come first, since the line content of
any of them may refer to a definition further down.
-/

namespace ReadmeAudit.Markdown

mutual

/-- The node of a block. -/
def Block.node (definitions : List Definition) : Block → Node
  | .heading level content => .mk (.heading level) [inlineNode definitions content]
  | .paragraph content => .mk .paragraph [inlineNode definitions content]
  | .fence content => .leaf (.fence (String.ofList content))
  | .code content => .leaf (.codeBlock (String.ofList content))
  | .html => .leaf .htmlBlock
  | .thematicBreak => .leaf .thematicBreak
  | .quote blocks => .mk .blockQuote (Block.nodes definitions blocks)
  | .list ordered items =>
    .mk (if ordered then .orderedList else .bulletList) (Block.itemNodes definitions items)
  | .table head rows =>
    let row (cell : Kind) (cells : List (List Char)) : Node :=
      .mk .tableRow (cells.map fun content => .mk cell [inlineNode definitions content])
    let body := if rows.isEmpty then [] else [.mk .tableBody (rows.map (row .dataCell))]
    .mk .table (.mk .tableHead [row .headerCell head] :: body)

/-- The nodes of blocks. -/
def Block.nodes (definitions : List Definition) : List Block → List Node
  | [] => []
  | block :: rest => Block.node definitions block :: Block.nodes definitions rest

/-- The nodes of the items of a list. -/
def Block.itemNodes (definitions : List Definition) : List (List Block) → List Node
  | [] => []
  | item :: rest =>
    .mk .listItem (Block.nodes definitions item) :: Block.itemNodes definitions rest

end

/-- The tree of a document. -/
def parse (text : String) : Node :=
  let (blocks, definitions) := Block.read (cleanSource text.toList)
  .mk .root (Block.nodes definitions blocks)

end ReadmeAudit.Markdown
