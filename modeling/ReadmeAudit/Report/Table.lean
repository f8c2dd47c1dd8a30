import ReadmeAudit.Decimal.Binary
import ReadmeAudit.Report.Panel

/-!
# Tables

The table of a report has a column for the number of a problem, one for its category, and one for
its wording. The first two have a fixed width. The last is as wide as it needs to be, and its texts
are wrapped if the terminal is not wide enough for that.
-/

namespace ReadmeAudit.Report

open Text

/-- A column of a table. -/
structure Column where
  /-- The text of its header. -/
  header : String
  /-- The width of its texts, if it is fixed. -/
  fixed : Option Nat
  /-- Whether texts stand at its right edge. -/
  right : Bool

/-- The columns. -/
def columns : List Column :=
  [⟨"#", some 4, true⟩, ⟨"Kind", some 22, false⟩, ⟨"Problem", none, false⟩]

/-- The blanks of a cell on both sides together. -/
def padding : Nat := 2

/-- The lines between and around the columns. -/
def borders : Nat := columns.length + 1

/-! ### Widths -/

/-- Whether a character ends a line of a text for measuring. -/
def isLineEnd (c : Char) : Bool :=
  [10, 11, 12, 13, 28, 29, 30, 0x85, 0x2028, 0x2029].contains c.toNat

/-- The lines of a text for measuring. -/
def measuredLines : List Char → List (List Char)
  | [] => [[]]
  | c :: rest =>
    match measuredLines rest with
    | line :: lines => if isLineEnd c then [] :: line :: lines else (c :: line) :: lines
    | [] => [[c]]

/-- The width of the widest line of a text. -/
def textWidth (text : String) : Nat :=
  ((measuredLines text.toList).map widthChars).foldl max 0

/-- The width that a column takes of a limit, for the texts of its cells. -/
def columnWidth (limit : Nat) (column : Column) (cells : List String) : Nat :=
  if limit = 0 then 0
  else match column.fixed with
    | some width => min (width + padding) limit
    | none =>
      if limit ≤ padding then limit
      else min ((cells.map textWidth).foldl max 0 + padding) limit

/-- The widths reduced by an amount, which is spread evenly over those that are left. -/
def reduceEvenly : (amount : Nat) → List Nat → List Nat
  | _, [] => []
  | amount, width :: widths =>
    if width = 0 then width :: reduceEvenly amount widths
    else
      let shares := ((width :: widths).filter (0 < ·)).length
      let share := min width (Decimal.roundDiv amount shares)
      (width - share) :: reduceEvenly (amount - share) widths

/-- The widths with those that are not fixed reduced by an amount as far as possible. -/
def reduceFlexible (amount : Nat) (columns : List Column) (widths : List Nat) : List Nat :=
  (columns.zip widths).map fun (column, width) =>
    if column.fixed.isSome then width else width - amount

/-- The cells of each column. -/
def cellsOf (rows : List (List String)) (number : Nat) : List String :=
  rows.map fun row => row.getD number ""

/-- The width of columns together. -/
def total (widths : List Nat) : Nat :=
  widths.foldr (· + ·) 0

/-- The widths of the columns in a limit. -/
def columnWidths (limit : Nat) (rows : List (List String)) : List Nat :=
  let cells := (List.range columns.length).map (cellsOf ((columns.map (·.header)) :: rows))
  let measure (limits : List Nat) : List Nat :=
    (limits.zip (columns.zip cells)).map fun (limit, column, texts) =>
      columnWidth limit column texts
  let wanted := (measure (columns.map fun _ => limit)).map (max 1)
  if total wanted ≤ limit then wanted
  else
    let collapsed := reduceFlexible (total wanted - limit) columns wanted
    measure (if total collapsed ≤ limit then collapsed
      else reduceEvenly (total collapsed - limit) collapsed)

/-! ### Rows -/

/-- The lines of a cell of a width. There are none if the width leaves no room for a text. -/
def cellLines (column : Column) (width : Nat) (text : String) : List (List Char) :=
  let room := width - padding
  if room = 0 then []
  else (wrap .ellipsis room text.toList).map fun line =>
    let fitted := if column.right then padLeft room (dropRightWhile isBlank line)
      else padRight room line
    ' ' :: fitted ++ [' ']

/-- The lines of a row, with a line between and around its cells. -/
def rowLines (edge : String) (widths : List Nat) (row : List String) : List String :=
  let cells := (columns.zip (widths.zip row)).map fun (column, width, text) =>
    (width, cellLines column width text)
  let height := (cells.map fun (_, found) => found.length).foldl max 1
  (List.range height).map fun number =>
    edge ++ String.join (cells.map fun (width, found) =>
      String.ofList (found.getD number (List.replicate width ' ')) ++ edge)

/-- A line across a table. -/
def rule (widths : List Nat) (left across between right : Char) : String :=
  String.singleton left
    ++ (String.singleton between).intercalate (widths.map fun width => run width across)
    ++ String.singleton right

/-- The lines of a table that fits into a width. -/
def table (width : Nat) (rows : List (List String)) : List String :=
  let widths := columnWidths (width - borders) rows
  [rule widths '┏' '━' '┳' '┓'] ++ rowLines "┃" widths (columns.map (·.header))
    ++ [rule widths '┡' '━' '╇' '┩'] ++ rows.flatMap (rowLines "│" widths)
    ++ [rule widths '└' '─' '┴' '┘']

end ReadmeAudit.Report
