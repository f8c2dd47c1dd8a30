import Std.Data.HashMap
import ReadmeAudit.Text.Punctuation
import ReadmeAudit.Markdown.Block
import ReadmeAudit.Markdown.Line
import ReadmeAudit.Markdown.Destination
import ReadmeAudit.Markdown.Emphasis

/-!
# Line content

`inlineNodes` reads the line content of a heading, a paragraph or a table cell into nodes. It goes
through the characters from left to right and reads at each position the token that begins there:
a text, a break, an escape, a code span, a run of emphasis marks, a link or an image, an automatic
link, an HTML tag or an entity.

The label of a link extends to the bracket that closes it, where brackets inside other tokens do
not count. To find it, tokens are passed over without being built, and the position after each is
remembered. Labels inside labels are followed to the nesting limit; at the limit the rest of the
content counts as one token.
-/

namespace ReadmeAudit.Markdown

open Text Html

/-- Line content with the definitions that apply to it. -/
structure Content where
  /-- The characters. -/
  chars : Array Char
  /-- The definitions of link references, the first of a label being the one that counts. -/
  definitions : List Definition

/-- The positions after the tokens that have been passed over, by their own positions. -/
abbrev Passed := Std.HashMap Nat Nat

/-- A token of line content. -/
inductive Token where
  /-- Characters that stand for themselves. -/
  | text (content : List Char)
  /-- A line end. -/
  | lineEnd
  /-- A line end after a backslash. -/
  | hardBreak
  /-- An escaped character or an entity. -/
  | escaped (content : String)
  /-- A code span. -/
  | code (content : String)
  /-- A run of emphasis marks. -/
  | marks (mark : Char) (count : Nat) (opens closes : Bool)
  /-- A link with the positions of its label. -/
  | link (first past : Nat) (destination : String)
  /-- An image with the positions of its label. -/
  | image (first past : Nat)
  /-- An automatic link with its text. -/
  | autolink (destination text : String)
  /-- An HTML tag. -/
  | html

namespace Content

/-- The character at a position, and the one of code zero past the end. -/
def charAt (content : Content) (position : Nat) : Char :=
  content.chars.getD position (Char.ofNat 0)

/-- The characters from a position to before another. -/
def slice (content : Content) (first past : Nat) : List Char :=
  (content.chars.extract first past).toList

/-- The position after the characters with a property, from a position to before another. -/
def skipWhile (content : Content) (p : Char → Bool) (position past : Nat) : Nat :=
  if position < past && p (content.charAt position) then skipWhile content p (position + 1) past
  else position
termination_by past - position
decreasing_by simp_all; omega

/-- The destination that is defined for a label. -/
def defined? (content : Content) (label : List Char) : Option String :=
  let label := normalizeLabel label
  (content.definitions.find? (·.label == label)).map (·.destination)

/-! ### Tokens without labels -/

/-- Whether a character may begin a token other than text. -/
def beginsToken (c : Char) : Bool :=
  "\n!#$%&*+-:<=>@[\\]^_\x60\x7b\x7d~".toList.contains c

/-- The text at a position. -/
def text? (content : Content) (position past : Nat) : Option (Token × Nat) :=
  let next := content.skipWhile (!beginsToken ·) position past
  if next == position then none else some (.text (content.slice position next), next)

/-- The line end at a position, with the spaces at the front of the next line. -/
def lineEnd? (content : Content) (position past : Nat) : Option (Token × Nat) :=
  if content.charAt position == '\n' then
    some (.lineEnd, content.skipWhile isSpace (position + 1) past)
  else none

/-- The escape at a position. -/
def escape? (content : Content) (position past : Nat) : Option (Token × Nat) :=
  if content.charAt position == '\\' && position + 1 < past then
    let c := content.charAt (position + 1)
    if c == '\n' then some (.hardBreak, content.skipWhile isSpace (position + 2) past)
    else
      let text := if isAsciiPunctuation c then [c] else ['\\', c]
      some (.escaped (String.ofList text), position + 2)
  else none

/-- The position after the backquotes at a position, of which there is at least one. -/
def afterBackquotes (content : Content) (position past : Nat) : Nat :=
  content.skipWhile (· == '\x60') (position + 1) past

/-- The position of the first run of exactly `count` backquotes from a position on, in `fuel`
steps. -/
def closingBackquotes? (content : Content) (count past : Nat) : (fuel position : Nat) → Option Nat
  | 0, _ => none
  | fuel + 1, position =>
    if content.chars.size ≤ position then none
    else if content.charAt position == '\x60' then
      let next := content.afterBackquotes position past
      if next == position + count then some position
      else closingBackquotes? content count past fuel next
    else closingBackquotes? content count past fuel (position + 1)

/-- The content of a code span: line ends become spaces, and one space is taken off both ends if
there is one at both and the content is not blank. -/
def spanContent (chars : List Char) : List Char :=
  let text := chars.map fun c => if c == '\n' then ' ' else c
  if text.head? == some ' ' && text.getLast? == some ' ' && !text.all isBlank then
    (text.drop 1).dropLast
  else text

/-- The code span at a position, or the backquotes there if none closes. -/
def code? (content : Content) (position past : Nat) : Option (Token × Nat) :=
  if content.charAt position == '\x60' then
    let start := content.afterBackquotes position past
    let count := start - position
    match content.closingBackquotes? count past content.chars.size start with
    | some close =>
      some (.code (String.ofList (spanContent (content.slice start close))), close + count)
    | none => some (.text (List.replicate count '\x60'), start)
  else none

/-- Whether a character counts as white space beside emphasis marks. -/
def isSpaceBesideMark (c : Char) : Bool :=
  isTrimmed c && c.toNat != 0x2028 && c.toNat != 0x2029

/-- The run of emphasis marks at a position. A run opens emphasis if it is left-flanking, and
closes it if it is right-flanking; of underscores inside a word it does neither. -/
def marks? (content : Content) (position past : Nat) : Option (Token × Nat) :=
  let mark := content.charAt position
  if mark == '*' || mark == '_' then
    let count := content.skipWhile (· == mark) position past - position
    let before := if position = 0 then ' ' else content.charAt (position - 1)
    let after := if position + count < past then content.charAt (position + count) else ' '
    let punctBefore := isAsciiPunctuation before || isPunctuation before
    let punctAfter := isAsciiPunctuation after || isPunctuation after
    let spaceBefore := isSpaceBesideMark before
    let spaceAfter := isSpaceBesideMark after
    let left := !(spaceAfter || (punctAfter && !(spaceBefore || punctBefore)))
    let right := !(spaceBefore || (punctBefore && !(spaceAfter || punctAfter)))
    let split := mark == '*'
    some (.marks mark count (left && (split || !right || punctBefore))
      (right && (split || !left || punctAfter)), position + count)
  else none

/-- Whether characters are an absolute address: a scheme, a colon, and no blank or bracket. -/
def isAddress (chars : List Char) : Bool :=
  let scheme := chars.takeWhile (· != ':')
  let rest := chars.drop scheme.length
  scheme.head?.any isLetter
    && scheme.all (fun c => isLetter c || isDigit c || c == '+' || c == '.' || c == '-')
    && 2 ≤ scheme.length && scheme.length ≤ 32
    && rest.head? == some ':'
    && rest.all (fun c => 0x20 < c.toNat && c != '<' && c != '>')

/-- Whether characters are a label of a host name. -/
def isHostLabel (chars : List Char) : Bool :=
  let alphanumeric (c : Char) : Bool := isLetter c || isDigit c
  chars.head?.any alphanumeric && chars.getLast?.any alphanumeric
    && chars.all (fun c => alphanumeric c || c == '-') && chars.length ≤ 63

/-- Whether characters are a mail address. -/
def isMailAddress (chars : List Char) : Bool :=
  let name := chars.takeWhile (· != '@')
  !name.isEmpty
    && name.all (fun c => isLetter c || isDigit c
      || ".!#$%&'*+/=?^_\x60\x7b|\x7d~-".toList.contains c)
    && (chars.drop name.length).head? == some '@'
    && (splitChars '.' (chars.drop (name.length + 1))).all isHostLabel

/-- The automatic link at a position. A line end just before the closing bracket does not count. -/
def autolink? (content : Content) (position past : Nat) : Option (Token × Nat) :=
  if content.charAt position == '<' then
    let rest := content.slice (position + 1) past
    let inner := rest.takeWhile fun c => c != '<' && c != '>'
    if (rest.drop inner.length).head? == some '>' then
      let link (destination : List Char) : Option (Token × Nat) :=
        let destination := normalize destination
        if isSafe destination then
          some (.autolink destination (decode inner), position + inner.length + 2)
        else none
      let bare := if inner.getLast? == some '\n' then inner.dropLast else inner
      if isAddress bare then link inner
      else if isMailAddress bare then link ("mailto:".toList ++ inner)
      else none
    else none
  else none

/-- The HTML tag at a position. -/
def html? (content : Content) (position past : Nat) : Option (Token × Nat) :=
  if content.charAt position == '<' && position + 2 < past then
    let chars := content.slice position content.chars.size
    (tag? chars).map fun rest => (.html, content.chars.size - rest.length)
  else none

/-- The entity at a position. -/
def entityToken? (content : Content) (position past : Nat) : Option (Token × Nat) :=
  if content.charAt position == '&' && position + 1 < past then
    (entity? (content.slice position (position + 36))).map fun (text, rest) =>
      (.escaped text, min (position + 36) content.chars.size - rest.length)
  else none

/-! ### Links and images -/

/-- The position of the bracket that closes a label, from a position inside it on, where `depth`
brackets are open. `pass` passes over a token. With `alone`, no other link may stand in the
label. -/
def labelEnd? (content : Content) (pass : (position : Nat) → Passed → Nat × Passed) (past : Nat)
    (alone : Bool) : (fuel depth position : Nat) → Passed → Option Nat × Passed
  | 0, _, _, passed => (none, passed)
  | fuel + 1, depth, position, passed =>
    if past ≤ position then (none, passed)
    else
      let c := content.charAt position
      let depth := if c == ']' then depth - 1 else depth
      if c == ']' && depth == 0 then (some position, passed)
      else
        let (next, passed) := pass position passed
        if c == '[' then
          if next == position + 1 then
            labelEnd? content pass past alone fuel (depth + 1) next passed
          else if alone then (none, passed)
          else labelEnd? content pass past alone fuel depth next passed
        else labelEnd? content pass past alone fuel depth next passed

/-- The position after spaces, tabs and line ends. -/
def skipBlank (content : Content) (position past : Nat) : Nat :=
  content.skipWhile (fun c => isSpace c || c == '\n') position past

/-- The position of what follows the characters left of a slice that ends at `past`. -/
def after (past : Nat) (rest : List Char) : Nat :=
  past - rest.length

/-- The destination at a position and the position after it. One that is not safe counts as empty
and is not passed over. -/
def destinationAt? (content : Content) (position past : Nat) : Option (String × Nat) :=
  (destination? (content.slice position past)).map fun (destination, rest) =>
    let destination := normalize destination
    if isSafe destination then (destination, after past rest) else ("", position)

/-- The position after the title and the blanks around it, where there is one. -/
def skipTitle (content : Content) (position past : Nat) : Nat :=
  let start := content.skipBlank position past
  if start == position then start
  else match title? (content.slice start past) with
    | some (_, rest) => content.skipBlank (after past rest) past
    | none => start

/-- The target of a link or image whose label is followed by a parenthesis at a position: the
destination, and the position where the closing parenthesis has to be. -/
def target? (content : Content) (position past : Nat) : Option (String × Nat) :=
  let start := content.skipBlank (position + 1) past
  if past ≤ start then none
  else match content.destinationAt? start past with
    | some (destination, next) => some (destination, content.skipTitle next past)
    | none => some ("", start)

/-- The reference of a link or image whose label is given, with an optional second label at a
position: the destination, and the position after it. -/
def reference? (content : Content) (pass : (position : Nat) → Passed → Nat × Passed)
    (past first close position : Nat) (passed : Passed) : Option (String × Nat) × Passed :=
  let (second, passed) :=
    if position < past && content.charAt position == '[' then
      content.labelEnd? pass past false (past + 1 - position) 1 (position + 1) passed
    else (none, passed)
  let (label, next) := match second with
    | some finish => (content.slice (position + 1) finish, finish + 1)
    | none => ([], close + 1)
  let label := if label.isEmpty then content.slice first close else label
  ((content.defined? label).map (·, next), passed)

/-- The link at a position. -/
def link? (content : Content) (pass : (position : Nat) → Passed → Nat × Passed)
    (position past : Nat) (passed : Passed) : Option (Token × Nat) × Passed :=
  if content.charAt position == '[' then
    let first := position + 1
    match content.labelEnd? pass past true (past + 1 - position) 1 first passed with
    | (none, passed) => (none, passed)
    | (some close, passed) =>
      let done (found : Option (String × Nat) × Passed) : Option (Token × Nat) × Passed :=
        (found.1.map fun (destination, next) => (.link first close destination, next), found.2)
      if close + 1 < past && content.charAt (close + 1) == '(' then
        match content.target? (close + 1) past with
        | none => (none, passed)
        | some (destination, next) =>
          if next < past && content.charAt next == ')' then
            (some (.link first close destination, next + 1), passed)
          else done (content.reference? pass past first close (next + 1) passed)
      else done (content.reference? pass past first close (close + 1) passed)
  else (none, passed)

/-- The image at a position. -/
def image? (content : Content) (pass : (position : Nat) → Passed → Nat × Passed)
    (position past : Nat) (passed : Passed) : Option (Token × Nat) × Passed :=
  if content.charAt position == '!' && position + 1 < past
      && content.charAt (position + 1) == '[' then
    let first := position + 2
    match content.labelEnd? pass past false (past + 1 - position) 1 first passed with
    | (none, passed) => (none, passed)
    | (some close, passed) =>
      if close + 1 < past && content.charAt (close + 1) == '(' then
        match content.target? (close + 1) past with
        | none => (none, passed)
        | some (_, next) =>
          if next < past && content.charAt next == ')' then
            (some (.image first close, next + 1), passed)
          else (none, passed)
      else
        let (found, passed) := content.reference? pass past first close (close + 1) passed
        (found.map fun (_, next) => (.image first close, next), passed)
  else (none, passed)

/-! ### All tokens -/

/-- The first result among several. -/
def firstOf (choices : List (Unit → Option (Token × Nat))) : Option (Token × Nat) :=
  choices.findSome? fun choice => choice ()

/-- The token at a position. With `marked`, a run of emphasis marks is one. -/
def token? (content : Content) (pass : (position : Nat) → Passed → Nat × Passed) (marked : Bool)
    (position past : Nat) (passed : Passed) : Option (Token × Nat) × Passed :=
  let early := firstOf [
    fun _ => content.text? position past,
    fun _ => content.lineEnd? position past,
    fun _ => content.escape? position past,
    fun _ => content.code? position past,
    fun _ => if marked then content.marks? position past else none]
  match early with
  | some found => (some found, passed)
  | none =>
    match content.link? pass position past passed with
    | (some found, passed) => (some found, passed)
    | (none, passed) =>
      match content.image? pass position past passed with
      | (some found, passed) => (some found, passed)
      | (none, passed) =>
        (firstOf [
          fun _ => content.autolink? position past,
          fun _ => content.html? position past,
          fun _ => content.entityToken? position past], passed)

/-- The position after the token at a position, with room for so many labels inside labels. -/
def pass (content : Content) (past : Nat) : (room : Nat) → (position : Nat) → Passed → Nat × Passed
  | room, position, passed =>
    match passed.get? position with
    | some next => (next, passed)
    | none =>
      match room with
      | 0 => (past + 1, passed.insert position (past + 1))
      | room + 1 =>
        let (found, passed) :=
          content.token? (pass content past room) false position past passed
        let next := (found.map (·.2)).getD (position + 1)
        (next, passed.insert position next)

/-- Text without its trailing spaces, and whether they are at least two. -/
def beforeBreak (text : List Char) : List Char × Bool :=
  let kept := dropRightWhile (· == ' ') text
  (kept, 2 ≤ text.length - kept.length)

/-- The piece of collected text, unless there is none. -/
def pending (text : List Char) : List Piece :=
  if text.isEmpty then [] else [.text (String.ofList text)]

/-- The pieces of the content from a position to before another, inside `depth` links. `text` is
the text collected so far, and `describe` reads the description of an image. -/
def pieces (content : Content) (describe : List Char → List Node) : (fuel depth past : Nat) →
    (text : List Char) → (position : Nat) → Passed → List Piece × Passed
  | 0, _, _, text, _, passed => (pending text, passed)
  | fuel + 1, depth, past, text, position, passed =>
    if past ≤ position then (pending text, passed)
    else
      let (found, passed) :=
        content.token? (content.pass past (20 - depth)) true position past passed
      match found with
      | none =>
        pieces content describe fuel depth past (text ++ [content.charAt position]) (position + 1)
          passed
      | some (.text more, next) =>
        pieces content describe fuel depth past (text ++ more) next passed
      | some (.marks mark count opens closes, next) =>
        let (rest, passed) := pieces content describe fuel depth past [] next passed
        (pending text ++ List.replicate count (.delimiter mark count opens closes) ++ rest, passed)
      | some (.lineEnd, next) =>
        let (kept, hard) := beforeBreak text
        let (rest, passed) := pieces content describe fuel depth past [] next passed
        (pending kept ++ .node (.leaf (if hard then .hardBreak else .softBreak)) :: rest, passed)
      | some (.link first close destination, next) =>
        let (inner, passed) :=
          pieces content describe fuel (depth + 1) close [] first passed
        let (rest, passed) := pieces content describe fuel depth past [] next passed
        (pending text ++ .node (.mk (.link destination) (Piece.nest inner)) :: rest, passed)
      | some (token, next) =>
        let node : Node := match token with
          | .hardBreak => .leaf .hardBreak
          | .escaped text => .leaf (.escaped text)
          | .code text => .leaf (.codeSpan text)
          | .image first close => .mk .image (describe (content.slice first close))
          | .autolink destination text => .mk (.link destination) [.leaf (.text text)]
          | _ => .leaf .htmlInline
        let (rest, passed) := pieces content describe fuel depth past [] next passed
        (pending text ++ .node node :: rest, passed)

end Content

/-- The nodes of line content in which escapes stand apart, with `room` for so many images inside
each other. -/
def rawNodes (definitions : List Definition) : (room : Nat) → List Char → List Node
  | 0, _ => []
  | room + 1, chars =>
    let content : Content := ⟨chars.toArray, definitions⟩
    let (pieces, _) := content.pieces (rawNodes definitions room) (chars.length + 1) 0 chars.length
      [] 0 ∅
    Piece.nest pieces

mutual

/-- A node with its escapes joined with the text around them, except in images. -/
def joinEscapes : Node → Node
  | .mk .image children => .mk .image children
  | .mk kind children => .mk kind (joinText true (joinEscapesAll children))

/-- Nodes with the escapes below them joined with the text around them. -/
def joinEscapesAll : List Node → List Node
  | [] => []
  | node :: rest => joinEscapes node :: joinEscapesAll rest

end

/-- The node of line content. -/
def inlineNode (definitions : List Definition) (chars : List Char) : Node :=
  joinEscapes (.mk .inline (rawNodes definitions (chars.length + 1) chars))

end ReadmeAudit.Markdown
