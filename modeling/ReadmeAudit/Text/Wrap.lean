import ReadmeAudit.Text.Blank
import ReadmeAudit.Text.Width

/-!
# Wrapped text

A text is wrapped to a width by breaking its lines between words, each line as late as possible. A
word that is wider than a line is folded, or cut off with an ellipsis, as the `Overflow` says.
-/

namespace ReadmeAudit.Text

/-- What happens to a word that is wider than a line. -/
inductive Overflow where
  /-- It goes on in the next line. -/
  | fold
  /-- Its end is left out. -/
  | ellipsis
deriving Repr, DecidableEq

/-! ### Words -/

/-- The characters of a line in parts, each of which begins where a word does. Blanks at the
beginning of the line are a part of their own. -/
def wordParts : List Char → List (List Char)
  | [] => []
  | c :: rest =>
    match wordParts rest with
    | (d :: part) :: parts =>
      if isBlank c && !isBlank d then [c] :: (d :: part) :: parts else (c :: d :: part) :: parts
    | parts => [c] :: parts

/-- The words of a line, each with the blanks after it, and the first also with the blanks before
it. -/
def lineWords (chars : List Char) : List (List Char) :=
  match wordParts chars with
  | blanks :: word :: words =>
    if blanks.all isBlank then (blanks ++ word) :: words else blanks :: word :: words
  | words => words

/-! ### Lines -/

/-- The lines of a text that have been filled, the last one first. -/
structure Filling where
  /-- The lines that are complete. -/
  complete : List (List Char)
  /-- The line that is being filled. -/
  current : List Char
  /-- The width of that line. -/
  offset : Nat

/-- The pieces of a word that fit into lines of a width, the last one first. -/
def foldWord (limit : Nat) : (pieces : List (List Char)) → List Char → List (List Char)
  | pieces, [] => pieces
  | [], c :: rest => foldWord limit [[c]] rest
  | piece :: pieces, c :: rest =>
    if limit < (piece ++ [c]).foldl (fun width c => width + charWidth c) 0 then
      foldWord limit ([c] :: piece :: pieces) rest
    else foldWord limit ((piece ++ [c]) :: pieces) rest

namespace Filling

/-- The filling with the current line completed. The first line is not completed while it is
empty. -/
def endLine (filling : Filling) : Filling :=
  if filling.complete.isEmpty && filling.current.isEmpty then filling
  else ⟨filling.current :: filling.complete, [], 0⟩

/-- The filling with a word added. -/
def addWord (overflow : Overflow) (limit : Nat) (filling : Filling) (word : List Char) :
    Filling :=
  let length := widthChars (dropRightWhile isBlank word)
  if filling.offset + length ≤ limit then
    { filling with
      current := filling.current ++ word
      offset := filling.offset + widthChars word }
  else
    let filling := filling.endLine
    if limit < length && overflow = .fold then
      match foldWord limit [] word with
      | [] => filling
      | piece :: pieces => ⟨pieces ++ filling.complete, piece, widthChars piece⟩
    else { filling with current := word, offset := widthChars word }

/-- The lines of a filling. -/
def lines (filling : Filling) : List (List Char) :=
  (filling.current :: filling.complete).reverse

end Filling

/-- A line broken into lines of a width. -/
def breakLine (overflow : Overflow) (limit : Nat) (chars : List Char) : List (List Char) :=
  ((lineWords chars).foldl (Filling.addWord overflow limit) ⟨[], [], 0⟩).lines

/-! ### Fitting lines -/

/-- The distance between two tab stops. -/
def tabStop : Nat := 8

/-- A line with tabs replaced by blanks up to the next tab stop, from a position on. -/
def expandTabs : (position : Nat) → List Char → List Char
  | _, [] => []
  | position, '\t' :: rest =>
    let next := (position / tabStop + 1) * tabStop
    List.replicate (next - position) ' ' ++ expandTabs next rest
  | position, c :: rest => c :: expandTabs (position + charWidth c) rest

/-- The beginning of a line that fits into a width. -/
def takeWidth : (limit : Nat) → List Char → List Char
  | _, [] => []
  | limit, c :: rest =>
    if charWidth c ≤ limit then c :: takeWidth (limit - charWidth c) rest else []

/-- A line with blanks after it up to a width. -/
def padRight (limit : Nat) (chars : List Char) : List Char :=
  chars ++ List.replicate (limit - widthChars chars) ' '

/-- A line with blanks before it up to a width. -/
def padLeft (limit : Nat) (chars : List Char) : List Char :=
  List.replicate (limit - widthChars chars) ' ' ++ chars

/-- A line cut to exactly a width. -/
def crop (limit : Nat) (chars : List Char) : List Char :=
  padRight limit (takeWidth limit chars)

/-- A line without the blanks at its end that exceed a width. -/
def dropExcess (limit : Nat) (chars : List Char) : List Char :=
  let blanks := chars.length - (dropRightWhile isBlank chars).length
  chars.take (chars.length - min blanks (chars.length - limit))

/-- A line cut to at most a width. -/
def cutLine (overflow : Overflow) (limit : Nat) (chars : List Char) : List Char :=
  if widthChars chars ≤ limit then chars
  else match overflow with
    | .fold => crop limit chars
    | .ellipsis => crop (limit - 1) chars ++ ['…']

/-- The lines of a text wrapped to a width. -/
def wrap (overflow : Overflow) (limit : Nat) (text : List Char) : List (List Char) :=
  (splitChars '\n' text).flatMap fun line =>
    (breakLine overflow limit (expandTabs 0 line)).map fun piece =>
      cutLine overflow limit (dropExcess limit piece)

end ReadmeAudit.Text
