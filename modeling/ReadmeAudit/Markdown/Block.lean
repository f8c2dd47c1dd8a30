/-!
# Blocks

A document is read in two passes. The first cuts it into blocks, whose line content stays source
text, and collects the definitions of link references; the second reads the line content, for which
all definitions must be known. A `Block` is what lies between the two.
-/

namespace ReadmeAudit.Markdown

/-- A block with its line content as source text. -/
inductive Block where
  /-- A heading. -/
  | heading (level : Nat) (content : List Char)
  /-- A paragraph. -/
  | paragraph (content : List Char)
  /-- A code block between fences. -/
  | fence (content : List Char)
  /-- An indented code block. -/
  | code (content : List Char)
  /-- A block of HTML. -/
  | html
  /-- A thematic break. -/
  | thematicBreak
  /-- A block quote. -/
  | quote (blocks : List Block)
  /-- A list of items. -/
  | list (ordered : Bool) (items : List (List Block))
  /-- A table of a header row and further rows, all of one length. -/
  | table (head : List (List Char)) (rows : List (List (List Char)))
deriving Inhabited

/-- The definition of a link reference. -/
structure Definition where
  /-- The label in the form in which labels are compared. -/
  label : String
  /-- The destination. -/
  destination : String

end ReadmeAudit.Markdown
