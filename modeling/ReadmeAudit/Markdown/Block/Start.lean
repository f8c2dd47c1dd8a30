import ReadmeAudit.Markdown.Line
import ReadmeAudit.Markdown.Html

/-!
# Beginnings of blocks

Whether a line begins a block of a certain kind decides where a paragraph, a block quote or a table
ends. A `Scope` holds the lines with the indentation that the current container requires, and
`Scope.interrupted` says which beginnings end what.
-/

namespace ReadmeAudit.Markdown

open Text Html

/-- The lines of a document together with the container that is being read. -/
structure Scope where
  /-- The lines, as the container sees them. -/
  lines : Array Line
  /-- The number of the line past the last one that a paragraph may continue on. -/
  limit : Nat
  /-- The indentation that the content of the container requires. -/
  indent : Int
  /-- The indentation of the innermost list around the container. -/
  listIndent : Option Int

namespace Scope

/-- The line of a number. -/
def line (scope : Scope) (number : Nat) : Line :=
  scope.lines.getD number Line.past

/-- Whether a line is indented so far that it belongs to a code block. -/
def isCode (scope : Scope) (number : Nat) : Bool :=
  (scope.line number).indent - scope.indent ≥ 4

/-- Whether a line is indented less than the container requires. -/
def isOutside (scope : Scope) (number : Nat) : Bool :=
  (scope.line number).indent < scope.indent

/-- The number of the first line with content from a line on, `fuel` being the number of lines to
look at. -/
def skipEmptyFrom (scope : Scope) : (fuel number : Nat) → Nat
  | 0, number => number
  | fuel + 1, number =>
    if (scope.line number).isEmpty then skipEmptyFrom scope fuel (number + 1) else number

/-- The number of the first line with content from a line on, or of the line past the last. -/
def skipEmpty (scope : Scope) (number : Nat) : Nat :=
  skipEmptyFrom scope (scope.limit - number) number

/-- The text of lines from `first` to before `past`, with up to `indent` columns taken off each.
The last line end is kept on demand, if the document has it. -/
def content (scope : Scope) (first past indent : Nat) (keepEnd : Bool) : List Char :=
  (List.range' first (past - first)).flatMap fun number =>
    let line := scope.line number
    line.cut indent
      ++ if line.terminated && (keepEnd || number + 1 < past) then ['\n'] else []

end Scope

/-! ### Markers -/

/-- The characters of a fence, their number and what follows them. -/
def fenceMark? (body : List Char) : Option (Char × Nat × List Char) :=
  match body with
  | mark :: _ =>
    if mark == '\x60' || mark == '~' then
      let count := (body.takeWhile (· == mark)).length
      let info := body.dropWhile (· == mark)
      if count < 3 || (mark == '\x60' && info.contains mark) then none
      else some (mark, count, info)
    else none
  | [] => none

/-- Whether line content is a thematic break: at least three equal marks with spaces between. -/
def isThematicBreak (body : List Char) : Bool :=
  match body with
  | mark :: _ =>
    (mark == '*' || mark == '-' || mark == '_')
      && body.all (fun c => c == mark || isSpace c) && 3 ≤ body.count mark
  | [] => false

/-- The level of a heading with leading number signs, and what follows them. -/
def headingMark? (body : List Char) : Option (Nat × List Char) :=
  let level := (body.takeWhile (· == '#')).length
  let rest := body.dropWhile (· == '#')
  if level = 0 || 6 < level then none
  else if rest.isEmpty || rest.head?.any isSpace then some (level, rest)
  else none

/-- The marker of a list item. -/
structure Marker where
  /-- Whether the list is ordered. -/
  ordered : Bool
  /-- The character that the markers of one list share. -/
  sign : Char
  /-- The number of characters. -/
  width : Nat
  /-- The number of the item, if the list is ordered. -/
  number : Nat

/-- The marker at the front of line content. -/
def Marker.of? (body : List Char) : Option Marker :=
  let ends (rest : List Char) : Bool := rest.isEmpty || rest.head?.any isSpace
  let digits := body.takeWhile isDigit
  match body.drop digits.length with
  | sign :: rest =>
    if digits.isEmpty then
      if (sign == '*' || sign == '-' || sign == '+') && ends rest then
        some ⟨false, sign, 1, 0⟩
      else none
    else if (sign == '.' || sign == ')') && digits.length ≤ 9 && ends rest then
      some ⟨true, sign, digits.length + 1,
        digits.foldl (fun value c => value * 10 + (c.toNat - '0'.toNat)) 0⟩
    else none
  | [] => none

/-! ### Tables -/

/-- The cells of a table row: the pieces between bars, except that a bar right after a backslash
belongs to the cell, without the backslash. The current cell is given last character first. -/
def splitRow : (cell : List Char) → List Char → List (List Char)
  | cell, [] => [cell.reverse]
  | '\\' :: cell, '|' :: rest => splitRow ('|' :: cell) rest
  | cell, '|' :: rest => cell.reverse :: splitRow [] rest
  | cell, c :: rest => splitRow (c :: cell) rest

/-- The cells of a row without the empty ones before a first bar and after a last one. -/
def rowCells (row : List Char) : List (List Char) :=
  let cells := splitRow [] (trimChars isTrimmed row)
  let cells := if cells.head?.any List.isEmpty then cells.tail else cells
  let cells := if cells.getLast?.any List.isEmpty then cells.dropLast else cells
  cells

/-- Whether the cell of a delimiter row is dashes with an optional colon on either side. -/
def isDelimiterCell (cell : List Char) : Bool :=
  let inner := if cell.head? == some ':' then cell.tail else cell
  let dashes := inner.takeWhile (· == '-')
  !dashes.isEmpty && (inner.drop dashes.length == [] || inner.drop dashes.length == [':'])

/-- The number of columns of a delimiter row. -/
def delimiterColumns? (row : List Char) : Option Nat :=
  let isMark (c : Char) : Bool := c == '|' || c == '-' || c == ':'
  match row with
  | first :: second :: rest =>
    if isMark first && (isMark second || isSpace second) && !(first == '-' && isSpace second)
        && rest.all (fun c => isMark c || isSpace c) then
      let cells := (splitChars '|' row).map (trimChars isTrimmed)
      let cells := if cells.head?.any List.isEmpty then cells.tail else cells
      let cells := if cells.getLast?.any List.isEmpty then cells.dropLast else cells
      if cells.all isDelimiterCell then some cells.length else none
    else none
  | _ => none

/-! ### Interruption -/

/-- What the lines after the current one may end. -/
inductive Continued where
  /-- A paragraph. -/
  | paragraph
  /-- The definition of a link reference. -/
  | definition
  /-- A block quote or a table. -/
  | quote
  /-- A list. -/
  | list
deriving DecidableEq

namespace Scope

/-- The fence that a line begins. -/
def fence? (scope : Scope) (number : Nat) : Option (Char × Nat × List Char) :=
  if scope.isCode number then none else fenceMark? (scope.line number).body

/-- Whether a line begins a block quote. -/
def beginsQuote (scope : Scope) (number : Nat) : Bool :=
  !scope.isCode number && (scope.line number).body.head? == some '>'

/-- Whether a line is a thematic break. -/
def beginsBreak (scope : Scope) (number : Nat) : Bool :=
  !scope.isCode number && isThematicBreak (scope.line number).body

/-- The marker of the list that a line begins. A line that is indented four columns or more from
the list around it, and less than its item requires, continues a paragraph instead. -/
def list? (scope : Scope) (number : Nat) : Option Marker :=
  let line := scope.line number
  let continues := scope.listIndent.any fun indent =>
    line.indent - indent ≥ 4 && line.indent < scope.indent
  if scope.isCode number || continues then none else Marker.of? line.body

/-- Whether a line begins a list that ends what comes before it. A paragraph is ended only by an
item with content, and by the first item of an ordered list. -/
def beginsList (scope : Scope) (continued : Continued) (number : Nat) : Bool :=
  match scope.list? number with
  | none => false
  | some marker =>
    let line := scope.line number
    if continued = .paragraph && line.indent ≥ scope.indent then
      (!marker.ordered || marker.number == 1)
        && !(line.body.drop marker.width).all isSpace
    else true

/-- The way in which a line begins a block of HTML. -/
def html? (scope : Scope) (number : Nat) : Option BlockStart :=
  if scope.isCode number then none else BlockStart.of? (scope.line number).body

/-- The level and the source of the heading that a line is. -/
def heading? (scope : Scope) (number : Nat) : Option (Nat × List Char) :=
  if scope.isCode number then none else headingMark? (scope.line number).body

/-- The header cells of the table that a line begins, if lines before `stop` can belong to it. -/
def table? (scope : Scope) (number stop : Nat) : Option (List (List Char)) :=
  if stop < number + 2 || scope.isOutside (number + 1) || scope.isCode (number + 1) then none
  else match delimiterColumns? (scope.line (number + 1)).body with
    | none => none
    | some columns =>
      let body := (scope.line number).body
      let cells := rowCells body
      if body.contains '|' && !scope.isCode number && 0 < cells.length
          && cells.length == columns then some cells
      else none

/-- Whether a line ends what comes before it. -/
def interrupted (scope : Scope) (continued : Continued) (number stop : Nat) : Bool :=
  (scope.fence? number).isSome || scope.beginsQuote number || scope.beginsBreak number
    || (continued != .list
      && (scope.beginsList continued number || (scope.html? number).any BlockStart.interrupts
        || (scope.heading? number).isSome))
    || ((continued == .paragraph || continued == .definition)
      && (scope.table? number stop).isSome)

end Scope

end ReadmeAudit.Markdown
