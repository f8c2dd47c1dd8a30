import ReadmeAudit.Text.Blank
import ReadmeAudit.Text.Case

/-!
# HTML tags in Markdown

Recognisers of the HTML constructions that Markdown passes through: `tag?` reads one at the front
of a list of characters and returns what follows it, and `BlockStart.of?` classifies the line that
begins a block of HTML.
-/

namespace ReadmeAudit.Markdown.Html

open Text

/-- Whether a character is an ASCII letter. -/
def isLetter (c : Char) : Bool :=
  ('a' ≤ c && c ≤ 'z') || ('A' ≤ c && c ≤ 'Z')

/-- Whether a character is an ASCII digit. -/
def isDigit (c : Char) : Bool :=
  '0' ≤ c && c ≤ '9'

/-- Whether a character continues the name of a tag. -/
def isTagChar (c : Char) : Bool :=
  isLetter c || isDigit c || c == '-'

/-- Whether a character begins the name of an attribute. -/
def isAttributeStart (c : Char) : Bool :=
  isLetter c || c == '_' || c == ':'

/-- Whether a character continues the name of an attribute. -/
def isAttributeChar (c : Char) : Bool :=
  isAttributeStart c || isDigit c || c == '.' || c == '-'

/-- Whether a character may stand in a value without quotes. -/
def isBareChar (c : Char) : Bool :=
  0x20 < c.toNat && not (['"', '\'', '=', '<', '>', '\x60'].contains c)

/-- What follows the value of an attribute. -/
def value? : List Char → Option (List Char)
  | '\'' :: rest =>
    match rest.dropWhile (· != '\'') with
    | _ :: after => some after
    | [] => none
  | '"' :: rest =>
    match rest.dropWhile (· != '"') with
    | _ :: after => some after
    | [] => none
  | c :: rest => if isBareChar c then some (rest.dropWhile isBareChar) else none
  | [] => none

/-- What follows the value of an attribute with the equals sign before it, when there is one. -/
def assigned (chars : List Char) : List Char :=
  match chars.dropWhile isBlank with
  | '=' :: rest => (value? (rest.dropWhile isBlank)).getD chars
  | _ => chars

/-- What follows the attributes of a tag, each of which takes at least two of the `fuel`
characters. -/
def attributes : (fuel : Nat) → List Char → List Char
  | 0, chars => chars
  | fuel + 1, chars =>
    match chars with
    | c :: _ =>
      if isBlank c then
        match chars.dropWhile isBlank with
        | d :: rest =>
          if isAttributeStart d then attributes fuel (assigned (rest.dropWhile isAttributeChar))
          else chars
        | [] => chars
      else chars
    | [] => chars

/-- What follows an opening tag. -/
def openTag? : List Char → Option (List Char)
  | '<' :: c :: rest =>
    if isLetter c then
      let named := rest.dropWhile isTagChar
      match (attributes named.length named).dropWhile isBlank with
      | '/' :: '>' :: after => some after
      | '>' :: after => some after
      | _ => none
    else none
  | _ => none

/-- What follows a closing tag. -/
def closeTag? : List Char → Option (List Char)
  | '<' :: '/' :: c :: rest =>
    if isLetter c then
      match (rest.dropWhile isTagChar).dropWhile isBlank with
      | '>' :: after => some after
      | _ => none
    else none
  | _ => none

/-- What follows the first occurrence of a closing mark. -/
def afterMark? (mark : List Char) : List Char → Option (List Char)
  | [] => none
  | c :: rest =>
    if mark.isPrefixOf (c :: rest) then some ((c :: rest).drop mark.length)
    else afterMark? mark rest

/-- What follows the body of a comment. A pair of dashes that no angle closes takes the character
after it along. -/
def commentBody? : List Char → Option (List Char)
  | '-' :: '-' :: '>' :: rest => some rest
  | '-' :: '-' :: _ :: rest => commentBody? rest
  | ['-', '-'] => none
  | '-' :: _ :: rest => commentBody? rest
  | ['-'] => none
  | _ :: rest => commentBody? rest
  | [] => none

/-- What follows a comment, a processing instruction, a declaration or a character data
section. -/
def special? : List Char → Option (List Char)
  | '<' :: '!' :: '-' :: '-' :: rest =>
    match rest with
    | '>' :: after => some after
    | '-' :: '>' :: after => some after
    | _ => commentBody? rest
  | '<' :: '?' :: rest => afterMark? ['?', '>'] rest
  | '<' :: '!' :: c :: rest =>
    if isLetter c then afterMark? ['>'] rest
    else if "[CDATA[".toList.isPrefixOf (c :: rest) then
      afterMark? [']', ']', '>'] (rest.drop 6)
    else none
  | _ => none

/-- What follows an HTML construction inside a paragraph. -/
def tag? (chars : List Char) : Option (List Char) :=
  (openTag? chars).orElse fun _ => (closeTag? chars).orElse fun _ => special? chars

/-- Whether a word stands somewhere in a list of characters, ignoring case. -/
def hasWord (word : List Char) : List Char → Bool
  | [] => word.isEmpty
  | c :: chars => (afterWord? word (c :: chars)).isSome || hasWord word chars

/-- The tags whose content is raw text. -/
def rawNames : List String := ["script", "pre", "style", "textarea"]

/-- The tags that begin a block. -/
def blockNames : List String := [
  "address", "article", "aside", "base", "basefont", "blockquote", "body", "caption", "center",
  "col", "colgroup", "dd", "details", "dialog", "dir", "div", "dl", "dt", "fieldset",
  "figcaption", "figure", "footer", "form", "frame", "frameset", "h1", "h2", "h3", "h4", "h5",
  "h6", "head", "header", "hr", "html", "iframe", "legend", "li", "link", "main", "menu",
  "menuitem", "nav", "noframes", "ol", "optgroup", "option", "p", "param", "search", "section",
  "summary", "table", "tbody", "td", "tfoot", "th", "thead", "title", "tr", "track", "ul"]

/-- The ways in which a block of HTML begins, each with an end of its own. -/
inductive BlockStart where
  /-- A tag with raw text, which ends at a closing tag of such a kind. -/
  | raw
  /-- A comment. -/
  | comment
  /-- A processing instruction. -/
  | instruction
  /-- A declaration. -/
  | declaration
  /-- A character data section. -/
  | cdata
  /-- A tag that begins a block, which ends at an empty line. -/
  | block
  /-- A line with nothing but a tag, which ends at an empty line. -/
  | lone
deriving DecidableEq

namespace BlockStart

/-- Whether the name of a tag ends where the given characters begin. -/
def endsName (selfClosing : Bool) : List Char → Bool
  | [] => true
  | c :: rest => isBlank c || c == '>' || (selfClosing && c == '/' && rest.head? == some '>')

/-- The way in which a line begins a block of HTML. -/
def of? (line : List Char) : Option BlockStart :=
  match line with
  | '<' :: rest =>
    let closing := if rest.head? == some '/' then rest.drop 1 else rest
    let begins (names : List String) (chars : List Char) (selfClosing : Bool) : Bool :=
      names.any fun name =>
        match afterWord? name.toList chars with
        | some after => endsName selfClosing after
        | none => false
    if begins rawNames rest false then some raw
    else if "!--".toList.isPrefixOf rest then some comment
    else if rest.head? == some '?' then some instruction
    else if rest.head? == some '!' && (rest.drop 1).head?.any (fun c => 'A' ≤ c && c ≤ 'Z') then
      some declaration
    else if "![CDATA[".toList.isPrefixOf rest then some cdata
    else if begins blockNames closing true then some block
    else
      let onlyTag (after : Option (List Char)) : Bool := after.any (·.all isBlank)
      if onlyTag (openTag? line) || onlyTag (closeTag? line) then some lone else none
  | _ => none

/-- Whether a block that begins in this way interrupts a paragraph. -/
def interrupts : BlockStart → Bool
  | lone => false
  | _ => true

/-- Whether a block that begins in this way ends at a line. -/
def endsAt (start : BlockStart) (line : List Char) : Bool :=
  match start with
  | raw => rawNames.any fun name => hasWord (['<', '/'] ++ name.toList ++ ['>']) line
  | comment => occursInChars ['-', '-', '>'] line
  | instruction => occursInChars ['?', '>'] line
  | declaration => line.contains '>'
  | cdata => occursInChars [']', ']', '>'] line
  | block | lone => line.isEmpty

end BlockStart

end ReadmeAudit.Markdown.Html
