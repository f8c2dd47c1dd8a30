import ReadmeAudit.Failure
import ReadmeAudit.Report.Style

/-!
# Marked-up texts

A text for a report is marked up by tags in brackets: `[red]` opens a style, and `[/red]` closes it.
A backslash before a tag makes it a part of the text. `escape` puts such backslashes into a text of
any origin, and `Markup.shown` is what is seen of a marked-up text.

A text is escaped by itself. If it ends inside a bracket that is still open, then a text that
follows may close the bracket, and both together have a tag that neither of them has.

The names of pictures between colons are left as they are. What a tag attaches that begins with `@`
is not looked into: it would be read where the tag is closed, and a report, which has at most one
tag that is not its own, closes none of them.
-/

namespace ReadmeAudit.Report

open Text

/-! ### Tags -/

/-- Whether the next bracket is a closing one. -/
def closesNext (chars : List Char) : Bool :=
  (chars.dropWhile fun c => c != '[' && c != ']').head? == some ']'

/-- Whether a character may begin a tag. -/
def isTagStart (c : Char) : Bool :=
  ('a' ≤ c && c ≤ 'z') || c == '#' || c == '/' || c == '@'

/-- Whether what follows an opening bracket makes it a tag. -/
def isTag : List Char → Bool
  | c :: rest => isTagStart c && closesNext rest
  | [] => false

/-- A number of backslashes. -/
def backslashes (count : Nat) : List Char :=
  List.replicate count '\\'

/-- The characters with each tag escaped, where some backslashes stand before them. -/
def escapeAfter : (slashes : Nat) → List Char → List Char
  | slashes, [] => backslashes slashes
  | slashes, c :: rest =>
    if c = '\\' then escapeAfter (slashes + 1) rest
    else
      let count := if c = '[' && isTag rest then 2 * slashes + 1 else slashes
      backslashes count ++ c :: escapeAfter 0 rest

/-- The characters with a single backslash at the end doubled. -/
def doubleLast (chars : List Char) : List Char :=
  match chars.reverse with
  | '\\' :: '\\' :: _ => chars
  | '\\' :: _ => chars ++ ['\\']
  | _ => chars

/-- A text of any origin as a part of a marked-up text. -/
def escape (text : String) : List Char :=
  doubleLast (escapeAfter 0 text.toList)

namespace Markup

/-! ### Pieces -/

/-- A piece of a marked-up text. -/
inductive Piece where
  /-- A character that is shown. -/
  | char (c : Char)
  /-- A tag. -/
  | tag (content : List Char)
deriving Repr, DecidableEq

/-- Where a marked-up text is being read. -/
inductive Position where
  /-- After a number of backslashes outside of tags. -/
  | text (slashes : Nat)
  /-- Inside a tag. -/
  | tag

/-- A number of backslashes that are shown. -/
def shownSlashes (count : Nat) : List Piece :=
  (backslashes count).map .char

/-- The pieces of a marked-up text. Of the backslashes before a tag every second one is shown, and
an odd one makes the tag a part of the text. Before a bracket that begins no tag one is left out. -/
def pieces : Position → List Char → List Piece
  | .text slashes, [] => shownSlashes slashes
  | .text slashes, c :: rest =>
    if c = '\\' then pieces (.text (slashes + 1)) rest
    else if c = '[' then
      if isTag rest then
        if slashes % 2 = 1 then shownSlashes (slashes / 2) ++ .char '[' :: pieces (.text 0) rest
        else shownSlashes (slashes / 2) ++ .tag (rest.takeWhile (· != ']')) :: pieces .tag rest
      else shownSlashes (slashes - 1) ++ .char '[' :: pieces (.text 0) rest
    else shownSlashes slashes ++ .char c :: pieces (.text 0) rest
  | .tag, [] => []
  | .tag, c :: rest => if c = ']' then pieces (.text 0) rest else pieces .tag rest

/-! ### Rendering -/

/-- A tag that is open. -/
structure Tag where
  /-- Its name, in normal form. -/
  name : String
  /-- What stands after an equality sign. -/
  parameters : Option String

/-- The description of the style of a tag. -/
def Tag.style (tag : Tag) : String :=
  match tag.parameters with
  | none => tag.name
  | some parameters => tag.name ++ " " ++ parameters

/-- The tag of a content, and its name before that is put into normal form. -/
def split (content : List Char) : String × Option String :=
  let name := content.takeWhile (· != '=')
  (String.ofList name,
    if content.contains '=' then some (String.ofList (content.drop (name.length + 1))) else none)

/-- What has been rendered. -/
structure Rendering where
  /-- The characters shown, the last first. -/
  shown : List Char := []
  /-- The tags that are open, the innermost first. -/
  opened : List Tag := []
  /-- The descriptions of the styles of tags that have been closed. -/
  styles : List String := []

namespace Rendering

/-- The rendering with the innermost tag closed that is meant. -/
def closeMeant (rendering : Rendering) (isMeant : Tag → Bool) : Except Failure Rendering :=
  match rendering.opened.find? isMeant with
  | none => .error .strayTag
  | some tag =>
    .ok { rendering with
      opened := rendering.opened.eraseP isMeant
      styles := tag.style :: rendering.styles }

/-- The rendering with a tag closed: the innermost one, or the innermost one of a name. -/
def close (rendering : Rendering) (name : String) : Except Failure Rendering := do
  if name.isEmpty then rendering.closeMeant fun _ => true
  else
    let name ← (normalize name).mapError .number
    rendering.closeMeant fun tag => name == tag.name

/-- The rendering after another piece. -/
def add (rendering : Rendering) : Piece → Except Failure Rendering
  | .char c => return { rendering with shown := c :: rendering.shown }
  | .tag content => do
    let (name, parameters) := split content
    if Text.startsWith "/" name then rendering.close (strip (dropLead "/" name))
    else
      let name ← (normalize name).mapError .number
      return { rendering with opened := ⟨name, parameters⟩ :: rendering.opened }

/-- The rendering after several pieces. -/
def addAll (rendering : Rendering) : List Piece → Except Failure Rendering
  | [] => return rendering
  | piece :: pieces => do (← rendering.add piece).addAll pieces

/-- Accept the style that a description gives, where one that gives none is ignored. -/
def acceptStyle (description : String) : Except Failure Unit :=
  match Style.parse description with
  | .error (.number error) => .error (.number error)
  | _ => .ok ()

/-- The characters shown, provided that all styles are accepted. Tags may stay open. -/
def finish (rendering : Rendering) : Except Failure (List Char) := do
  (rendering.styles ++ rendering.opened.map Tag.style).forM acceptStyle
  return rendering.shown.reverse

end Rendering

/-- Whether a character controls a terminal and is not shown. -/
def isHidden (c : Char) : Bool :=
  [7, 8, 11, 12, 13].contains c.toNat

/-- What is shown of a marked-up text. -/
def shown (chars : List Char) : Except Failure (List Char) := do
  let rendering ← Rendering.addAll {} (pieces (.text 0) chars)
  return (← rendering.finish).filter fun c => !isHidden c

end Markup

end ReadmeAudit.Report
