/-!
# Document trees

A Markdown document is a tree of nodes. A `Node` has a `Kind`, which carries what is particular to
it, such as the level of a heading or the content of a text, and a list of children. A `Place` is a
node together with the siblings that follow it, which is what one needs to know in order to look
ahead from a heading to the section under it.
-/

namespace ReadmeAudit.Markdown

/-- What a node is. -/
inductive Kind where
  /-- The whole document. -/
  | root
  /-- A heading of a level from 1 to 6. -/
  | heading (level : Nat)
  /-- A paragraph. -/
  | paragraph
  /-- The line content of a heading, a paragraph or a table cell. -/
  | inline
  /-- A run of plain text. -/
  | text (content : String)
  /-- An escaped character or an entity that has not been joined with the text around it. -/
  | escaped (content : String)
  /-- A code span. -/
  | codeSpan (content : String)
  /-- A code block between fences. -/
  | fence (content : String)
  /-- An indented code block. -/
  | codeBlock (content : String)
  /-- A link to a destination. -/
  | link (destination : String)
  /-- An image, whose children are its description. -/
  | image
  /-- Emphasis. -/
  | emphasis
  /-- Strong emphasis. -/
  | strong
  /-- A line end inside a paragraph. -/
  | softBreak
  /-- A line break. -/
  | hardBreak
  /-- An HTML tag inside a paragraph. -/
  | htmlInline
  /-- A block of HTML. -/
  | htmlBlock
  /-- A thematic break. -/
  | thematicBreak
  /-- A block quote. -/
  | blockQuote
  /-- A bullet list. -/
  | bulletList
  /-- An ordered list. -/
  | orderedList
  /-- An item of a list. -/
  | listItem
  /-- A table. -/
  | table
  /-- The head of a table. -/
  | tableHead
  /-- The body of a table. -/
  | tableBody
  /-- A row of a table. -/
  | tableRow
  /-- A cell of the head of a table. -/
  | headerCell
  /-- A cell of the body of a table. -/
  | dataCell
deriving Repr, DecidableEq, Inhabited

namespace Kind

/-- The name of a kind of node. -/
def name : Kind → String
  | root => "root"
  | heading _ => "heading"
  | paragraph => "paragraph"
  | inline => "inline"
  | text _ => "text"
  | escaped _ => "text_special"
  | codeSpan _ => "code_inline"
  | fence _ => "fence"
  | codeBlock _ => "code_block"
  | link _ => "link"
  | image => "image"
  | emphasis => "em"
  | strong => "strong"
  | softBreak => "softbreak"
  | hardBreak => "hardbreak"
  | htmlInline => "html_inline"
  | htmlBlock => "html_block"
  | thematicBreak => "hr"
  | blockQuote => "blockquote"
  | bulletList => "bullet_list"
  | orderedList => "ordered_list"
  | listItem => "list_item"
  | table => "table"
  | tableHead => "thead"
  | tableBody => "tbody"
  | tableRow => "tr"
  | headerCell => "th"
  | dataCell => "td"

/-- The level of a heading. -/
def headingLevel? : Kind → Option Nat
  | heading level => some level
  | _ => none

/-- Whether a node is a heading. -/
def isHeading (kind : Kind) : Bool :=
  kind.headingLevel?.isSome

/-- The words that a node contributes to the text of the nodes above it. -/
def ownText : Kind → String
  | text content => content
  | escaped content => content
  | codeSpan content => content
  | _ => ""

end Kind

/-- A node of a document tree. -/
inductive Node where
  /-- A node of a kind with its children. -/
  | mk (kind : Kind) (children : List Node)
deriving Repr, Inhabited

namespace Node

/-- What a node is. -/
def kind : Node → Kind
  | mk kind _ => kind

/-- The children of a node. -/
def children : Node → List Node
  | mk _ children => children

/-- The level of a node that is a heading. -/
def headingLevel? (node : Node) : Option Nat :=
  node.kind.headingLevel?

/-- Whether a node is a heading of a level. -/
def isHeadingOf (level : Nat) (node : Node) : Bool :=
  node.headingLevel? == some level

/-- A node without children. -/
def leaf (kind : Kind) : Node :=
  mk kind []

end Node

/-- A node with the siblings that follow it. -/
structure Place where
  /-- The node. -/
  node : Node
  /-- The siblings after it. -/
  after : List Node

namespace Place

/-- The next sibling of a node. -/
def next? (place : Place) : Option Node :=
  place.after.head?

end Place

end ReadmeAudit.Markdown
