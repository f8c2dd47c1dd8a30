import ReadmeAudit.Text.Blank

/-!
# Source lines

A `Line` is a line of a Markdown document as the block that is being read sees it. A block quote
takes its marker off the front of a line, a list item moves the place where the content begins, and
tabs count up to the next multiple of four columns, so a line records where its content begins and
in which column. `sourceLines` cuts a document into lines, and `cut` takes an amount of indentation
off a line.
-/

namespace ReadmeAudit.Markdown

open Text

/-- Whether a character indents: a space or a tab. -/
def isSpace (c : Char) : Bool :=
  c == ' ' || c == '\t'

/-- Whether a character is trimmed from the ends of line content. -/
def isTrimmed (c : Char) : Bool :=
  isBlank c && !(0x1C ≤ c.toNat && c.toNat ≤ 0x1F) && c.toNat != 0x85

/-- A source line as the current block sees it. -/
structure Line where
  /-- The characters from the left edge of the block to the end of the line. -/
  text : List Char
  /-- The number of characters ahead of the content. -/
  lead : Nat
  /-- The column of the content relative to the block, negative for a line that only continues a
  paragraph. -/
  indent : Int
  /-- The column of the left edge. -/
  column : Nat
  /-- Whether a line end follows. -/
  terminated : Bool
deriving Repr, Inhabited

namespace Line

/-- The line that stands for those past the end of the document. -/
def past : Line := ⟨[], 0, 0, 0, false⟩

/-- The content of a line. -/
def body (line : Line) : List Char :=
  line.text.drop line.lead

/-- Whether a line has no content. -/
def isEmpty (line : Line) : Bool :=
  line.body.isEmpty

/-- Whether the content of a line begins at the very end of the document. -/
def isAtEnd (line : Line) : Bool :=
  line.isEmpty && !line.terminated

/-- The column reached from `column` over leading spaces and tabs, tabs being aligned relative to
a column `shift` further left, and the number of characters passed. -/
def measure (shift : Int) : (column : Int) → List Char → Int × Nat
  | column, ' ' :: rest =>
    let (reached, count) := measure shift (column + 1) rest
    (reached, count + 1)
  | column, '\t' :: rest =>
    let (reached, count) := measure shift (column + (4 - (column + shift) % 4)) rest
    (reached, count + 1)
  | column, _ => (column, 0)

/-- The line of the given characters, as the document sees it. -/
def ofChars (text : List Char) (terminated : Bool) : Line :=
  let (indent, lead) := measure 0 0 text
  ⟨text, lead, indent, 0, terminated⟩

/-- A line inside a block quote, without the marker and the optional space after it. Of a tab after
the marker only the first column is taken, so that `adjust` is one when the tab stays. -/
def unquote (line : Line) : Line :=
  let rest := line.body.drop 1
  let start := line.indent + 1
  let view (text : List Char) (start : Int) (adjust : Nat) : Line :=
    let (reached, lead) := measure (line.column + adjust) start text
    ⟨text, lead, reached - start, (start + adjust).toNat, line.terminated⟩
  match rest with
  | ' ' :: text => view text (start + 1) 0
  | '\t' :: text =>
    if (line.column + start) % 4 = 3 then view text (start + 1) 0 else view rest start 1
  | _ => view rest start 0

/-- The characters of a line after up to `indent` columns, where `taken` columns have been passed.
Characters ahead of the content that are not blank, such as a list marker, count as one column
each. A tab that reaches beyond leaves spaces behind. -/
def cutFrom (column indent : Nat) : (lead taken : Nat) → List Char → List Char
  | lead, taken, c :: rest =>
    if taken < indent then
      if c == '\t' then cutFrom column indent (lead - 1) (taken + (4 - (taken + column) % 4)) rest
      else if c == ' ' || 0 < lead then cutFrom column indent (lead - 1) (taken + 1) rest
      else c :: rest
    else List.replicate (taken - indent) ' ' ++ c :: rest
  | _, taken, [] => List.replicate (taken - indent) ' '

/-- The characters of a line with up to `indent` columns taken off. -/
def cut (indent : Nat) (line : Line) : List Char :=
  cutFrom line.column indent line.lead 0 line.text

end Line

/-- The lines of a document, of which only the last may lack a line end. A last line of spaces and
tabs without a line end is left out. -/
def sourceLines (source : List Char) : List Line :=
  match (splitChars '\n' source).reverse with
  | [] => []
  | final :: earlier =>
    let lines := earlier.reverse.map (Line.ofChars · true)
    if final.all isSpace then lines else lines ++ [Line.ofChars final false]

/-- The source with line ends unified and characters of code zero replaced. -/
def cleanSource : List Char → List Char
  | '\r' :: '\n' :: rest => '\n' :: cleanSource rest
  | '\r' :: rest => '\n' :: cleanSource rest
  | c :: rest => (if c.toNat = 0 then Char.ofNat 0xFFFD else c) :: cleanSource rest
  | [] => []

end ReadmeAudit.Markdown
