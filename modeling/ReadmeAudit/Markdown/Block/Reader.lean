import ReadmeAudit.Markdown.Block.Definition

/-!
# Reading blocks

`Block.read` cuts a document into blocks and collects the definitions of link references.
Containers are nested at most twenty levels deep, a block quote adding one level and a list with
its item two; what lies deeper is dropped. A container is read by the same reader as the document,
over the lines as the container sees them, with less room left for further containers.
-/

namespace ReadmeAudit.Markdown

open Text Html

/-- What has been read from a run of lines. -/
structure Reading where
  /-- The blocks. -/
  blocks : List Block
  /-- The definitions, in the order of the document. -/
  definitions : List Definition
  /-- The number of the line after those read. -/
  next : Nat

/-- A reader of the lines from a number up to before another. -/
abbrev Reader := Scope → (start stop : Nat) → Reading

namespace Scope

/-! ### Leaf blocks -/

/-- The number of the line after an indented code block, where `last` is the one after its last
line so far. -/
def codeEnd (scope : Scope) (stop : Nat) : (fuel last number : Nat) → Nat
  | 0, last, _ => last
  | fuel + 1, last, number =>
    if number < stop then
      if (scope.line number).isEmpty then codeEnd scope stop fuel last (number + 1)
      else if scope.isCode number then codeEnd scope stop fuel (number + 1) (number + 1)
      else last
    else last

/-- The number of the line at which a fenced block ends, and whether that line is its closing
fence. -/
def fenceEnd (scope : Scope) (mark : Char) (count stop : Nat) : (fuel number : Nat) → Nat × Bool
  | 0, number => (number, false)
  | fuel + 1, number =>
    let line := scope.line number
    let run := (line.body.takeWhile (· == mark)).length
    if stop ≤ number then (number, false)
    else if (!line.isEmpty && scope.isOutside number) || line.isAtEnd then (number, false)
    else if 0 < run && !scope.isCode number && count ≤ run
        && (line.body.drop run).all isSpace then (number, true)
    else fenceEnd scope mark count stop fuel (number + 1)

/-- The number of the line after a block of HTML, looked for from a line on. -/
def htmlEnd (scope : Scope) (start : BlockStart) (stop : Nat) : (fuel number : Nat) → Nat
  | 0, number => number
  | fuel + 1, number =>
    let body := (scope.line number).body
    if stop ≤ number || scope.isOutside number then number
    else if start.endsAt body then if body.isEmpty then number else number + 1
    else htmlEnd scope start stop fuel (number + 1)

/-- The content of a heading without the closing number signs. -/
def headingContent (rest : List Char) : List Char :=
  let text := dropRightWhile isSpace rest
  let unclosed := dropRightWhile (· == '#') text
  trimChars isTrimmed (if unclosed.getLast?.any isSpace then unclosed else text)

/-- The level that a line underlining a heading gives it. -/
def underline? (scope : Scope) (number : Nat) : Option Nat :=
  if scope.isOutside number then none
  else
    let body := (scope.line number).body
    match body with
    | mark :: _ =>
      if (mark == '=' || mark == '-') && (body.dropWhile (· == mark)).all isSpace then
        some (if mark == '=' then 1 else 2)
      else none
    | [] => none

/-- The line at which a paragraph that continues from a line on is underlined, with the level of
the heading that it then is. -/
def underlined? (scope : Scope) (stop : Nat) : (fuel number : Nat) → Option (Nat × Nat)
  | 0, _ => none
  | fuel + 1, number =>
    let line := scope.line number
    if stop ≤ number || line.isEmpty then none
    else if scope.isCode number then underlined? scope stop fuel (number + 1)
    else match scope.underline? number with
      | some level => some (number, level)
      | none =>
        if 0 ≤ line.indent && scope.interrupted .paragraph number stop then none
        else underlined? scope stop fuel (number + 1)

/-- The number of the line after a paragraph that continues from a line on. -/
def paragraphEnd (scope : Scope) : (fuel number : Nat) → Nat
  | 0, number => number
  | fuel + 1, number =>
    let line := scope.line number
    if scope.limit ≤ number || line.isEmpty then number
    else if !scope.isCode number && 0 ≤ line.indent
        && scope.interrupted .paragraph number scope.limit then number
    else paragraphEnd scope fuel (number + 1)

/-- The line content of lines from `first` to before `past`. -/
def inlineContent (scope : Scope) (first past : Nat) : List Char :=
  trimChars isTrimmed (scope.content first past scope.indent.toNat false)

/-- A row of a table with as many cells as its header. -/
def tableRow (columns : Nat) (body : List Char) : List (List Char) :=
  let cells := (rowCells body).map (trimChars isTrimmed)
  cells.take columns ++ List.replicate (columns - cells.length) []

/-- The rows of a table from a line on, while at most `budget` cells have to be filled in, and the
number of the line after them. -/
def tableRows (scope : Scope) (columns stop : Nat) : (fuel : Nat) → (budget : Int) →
    (number : Nat) → List (List (List Char)) × Nat
  | 0, _, number => ([], number)
  | fuel + 1, budget, number =>
    let body := (scope.line number).body
    let left := budget - ((columns : Int) - (rowCells body).length)
    if stop ≤ number || scope.isOutside number || scope.interrupted .quote number stop
        || (trimChars isTrimmed body).isEmpty || scope.isCode number || left < 0 then
      ([], number)
    else
      let (rows, next) := tableRows scope columns stop fuel left (number + 1)
      (tableRow columns body :: rows, next)

/-! ### Containers -/

/-- The lines of a block quote from a line on, as it sees them: those with a marker lose it, and
others continue its last paragraph. The number of the line after them is returned, and whether the
line there begins a block that ends the quote. -/
def quoteLines (scope : Scope) (stop : Nat) : (fuel : Nat) → (lastEmpty : Bool) →
    (lines : Array Line) → (number : Nat) → Array Line × Nat × Bool
  | 0, _, lines, number => (lines, number, false)
  | fuel + 1, lastEmpty, lines, number =>
    let line := scope.line number
    if stop ≤ number || line.isEmpty then (lines, number, false)
    else if line.body.head? == some '>' && !scope.isOutside number then
      let inner := line.unquote
      quoteLines scope stop fuel inner.isEmpty (lines.setIfInBounds number inner) (number + 1)
    else if lastEmpty then (lines, number, false)
    else if scope.interrupted .quote number stop then (lines, number, true)
    else
      quoteLines scope stop fuel lastEmpty
        (lines.setIfInBounds number { line with indent := -1 }) (number + 1)

/-- The block quote that begins at a line. -/
def quote (scope : Scope) (inner : Reader) (start stop : Nat) : Reading :=
  let first := (scope.line start).unquote
  let (lines, past, ended) := scope.quoteLines stop (stop - start) first.isEmpty
    (scope.lines.setIfInBounds start first) (start + 1)
  let limit := if ended then past else scope.limit
  let reading := inner { scope with lines, limit, indent := 0 } start past
  { reading with blocks := [.quote reading.blocks] }

/-- The items of a list from the one with a marker at a line on, and the reading after them. -/
def listItems (scope : Scope) (inner : Reader) (stop : Nat) : (fuel : Nat) → (marker : Marker) →
    (number : Nat) → List (List Block) × List Definition × Nat
  | 0, _, number => ([], [], number)
  | fuel + 1, marker, number =>
    let line := scope.line number
    let initial := line.indent + marker.width
    let rest := line.body.drop marker.width
    let (offset, blanks) := Line.measure line.column initial rest
    let bare := (rest.drop blanks).isEmpty
    let space := if bare || offset - initial > 4 then 1 else offset - initial
    let shifted := { line with lead := line.lead + marker.width + blanks, indent := offset }
    let reading :=
      if bare && (scope.line (number + 1)).isEmpty then ⟨[], [], min (number + 2) stop⟩
      else inner { scope with
        lines := scope.lines.setIfInBounds number shifted
        indent := initial + space
        listIndent := some scope.indent } number stop
    let next := max reading.next (number + 1)
    let (items, definitions, past) :=
      if stop ≤ next || scope.isOutside next || scope.isCode next
          || scope.interrupted .list next stop then ([], [], next)
      else match Marker.of? (scope.line next).body with
        | none => ([], [], next)
        | some following =>
          if following.ordered == marker.ordered && following.sign == marker.sign then
            listItems scope inner stop fuel following next
          else ([], [], next)
    (reading.blocks :: items, reading.definitions ++ definitions, past)

/-- The list that begins at a line with a marker. -/
def list (scope : Scope) (inner : Reader) (marker : Marker) (start stop : Nat) : Reading :=
  let (items, definitions, next) := scope.listItems inner stop (stop - start) marker start
  ⟨[.list marker.ordered items], definitions, next⟩

/-! ### One block -/

/-- The block that begins at a line with content, read by the first rule that applies. The readers
are those of the content of a block quote and of a list item. -/
def block (scope : Scope) (quoted item : Reader) (start stop : Nat) : Reading :=
  let line := scope.line start
  let one (block : Block) (next : Nat) : Reading := ⟨[block], [], next⟩
  let left := stop - start
  match scope.table? start stop with
  | some head =>
    let head := head.map (trimChars isTrimmed)
    let (rows, next) := scope.tableRows head.length stop left 0x10000 (start + 2)
    one (.table head rows) next
  | none =>
  if scope.isCode start then
    let next := scope.codeEnd stop left (start + 1) (start + 1)
    one (.code (scope.content start next (scope.indent + 4).toNat false ++ ['\n'])) next
  else match scope.fence? start with
  | some (mark, count, _) =>
    let (past, closed) := scope.fenceEnd mark count stop left (start + 1)
    one (.fence (scope.content (start + 1) past line.indent.toNat true))
      (if closed then past + 1 else past)
  | none =>
  if scope.beginsQuote start then scope.quote quoted start stop
  else if scope.beginsBreak start then one .thematicBreak (start + 1)
  else match scope.list? start with
  | some marker => scope.list item marker start stop
  | none =>
  match scope.definition? start with
  | some (definition, next) => ⟨[], [definition], next⟩
  | none =>
  match scope.html? start with
  | some way =>
    one .html (if way.endsAt line.body then start + 1
      else scope.htmlEnd way stop left (start + 1))
  | none =>
  match scope.heading? start with
  | some (level, rest) => one (.heading level (headingContent rest)) (start + 1)
  | none =>
  match scope.underlined? stop left (start + 1) with
  | some (past, level) =>
    one (.heading level (scope.inlineContent start past)) (past + 1)
  | none =>
    let past := scope.paragraphEnd (scope.limit - start) (start + 1)
    one (.paragraph (scope.inlineContent start past)) past

/-- The blocks from a line on, each read by the given reader. The reading ends ahead of a line that
is indented less than the container requires. -/
def blocksFrom (scope : Scope) (read : (start : Nat) → Reading) (stop : Nat) :
    (fuel start : Nat) → Reading
  | 0, start => ⟨[], [], start⟩
  | fuel + 1, start =>
    let start := scope.skipEmpty start
    if stop ≤ start || scope.isOutside start then ⟨[], [], start⟩
    else
      let first := read start
      let next := max first.next (start + 1)
      let next := if next < stop && (scope.line next).isEmpty then next + 1 else next
      if next < stop then
        let more := blocksFrom scope read stop fuel next
        ⟨first.blocks ++ more.blocks, first.definitions ++ more.definitions, more.next⟩
      else { first with next }

end Scope

/-- The reader of blocks with room for so many levels of containers. -/
def readBlocks : (room : Nat) → Reader
  | 0 => fun scope start stop =>
    scope.blocksFrom (fun _ => ⟨[], [], stop⟩) stop (stop - start + 1) start
  | 1 => fun scope start stop =>
    scope.blocksFrom (fun line => scope.block (readBlocks 0) (readBlocks 0) line stop) stop
      (stop - start + 1) start
  | room + 2 => fun scope start stop =>
    scope.blocksFrom (fun line => scope.block (readBlocks (room + 1)) (readBlocks room) line stop)
      stop (stop - start + 1) start

/-- How many levels of containers are read. -/
def nestingLimit : Nat := 20

/-- The blocks of a document and its definitions. -/
def Block.read (source : List Char) : List Block × List Definition :=
  let lines := (sourceLines source).toArray
  let scope : Scope := ⟨lines, lines.size, 0, none⟩
  let reading := readBlocks nestingLimit scope 0 lines.size
  (reading.blocks, reading.definitions)

end ReadmeAudit.Markdown
