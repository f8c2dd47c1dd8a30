import Std.Data.HashMap
import ReadmeAudit.Text.Case
import ReadmeAudit.Markdown.EntityTable
import ReadmeAudit.Markdown.Html

/-!
# Character entities

An entity names a character, as in `&amp;`, or gives its code in decimal or hexadecimal, as in
`&#42;` or `&#x2A;`. `entity?` reads one in running text, `unescape` replaces the entities and the
escaped punctuation of a link destination or title.
-/

namespace ReadmeAudit.Markdown

open Text Html

/-- The entity names with the characters they stand for. -/
def entityNames : Std.HashMap String String :=
  Std.HashMap.ofList <| entityLines.flatMap fun line =>
    (line.splitOn " ").map fun item =>
      let (name, codes) := match item.splitOn ":" with
        | [name, codes] => (name, codes)
        | _ => (item, "")
      (name, String.ofList ((codes.splitOn ".").map fun code =>
        Char.ofNat (hexValue code.toList)))

/-- Whether a code is that of a character that a text may hold: not a control code other than a
space, not a surrogate, and not one that is never a character. -/
def isTextCode (code : Nat) : Bool :=
  !(0xD800 ≤ code && code ≤ 0xDFFF) && !(0xFDD0 ≤ code && code ≤ 0xFDEF)
    && code % 0x10000 != 0xFFFF && code % 0x10000 != 0xFFFE
    && !(code ≤ 0x08) && code != 0x0B && !(0x0E ≤ code && code ≤ 0x1F)
    && !(0x7F ≤ code && code ≤ 0x9F) && code ≤ 0x10FFFF

/-- Whether a character is a hexadecimal digit. -/
def isHexDigit (c : Char) : Bool :=
  isDigit c || ('a' ≤ c && c ≤ 'f') || ('A' ≤ c && c ≤ 'F')

/-- The number that a list of decimal digits denotes. -/
def decimalValue (digits : List Char) : Nat :=
  digits.foldl (fun value c => value * 10 + (c.toNat - '0'.toNat)) 0

/-- The code that a numeric entity gives, with at most the given numbers of decimal and hexadecimal
digits, from the characters after the `#`, and what follows the digits. -/
def numericCode? (decimals hexes : Nat) (chars : List Char) : Option (Nat × List Char) :=
  let digits (limit : Nat) (p : Char → Bool) (chars : List Char) :
      Option (List Char × List Char) :=
    let found := chars.takeWhile p
    if found.isEmpty || limit < found.length then none else some (found, chars.dropWhile p)
  match chars with
  | c :: rest =>
    if c == 'x' || c == 'X' then
      (digits hexes isHexDigit rest).map fun (found, after) => (hexValue found, after)
    else (digits decimals isDigit chars).map fun (found, after) => (decimalValue found, after)
  | [] => none

/-- The name of an entity at the front of a list of characters, and what follows it. -/
def entityName? (chars : List Char) : Option (List Char × List Char) :=
  match chars with
  | c :: rest =>
    if isLetter c then
      let more := rest.takeWhile fun d => isLetter d || isDigit d
      if more.isEmpty || 31 < more.length then none
      else match rest.drop more.length with
        | ';' :: after => some (c :: more, after)
        | _ => none
    else none
  | [] => none

/-- The characters that the entity at the front of a list stands for, and what follows it. The
code of no character gives the replacement character. -/
def entity? : List Char → Option (String × List Char)
  | '&' :: '#' :: rest =>
    match numericCode? 7 6 rest with
    | some (code, ';' :: after) =>
      some (String.singleton (Char.ofNat (if isTextCode code then code else 0xFFFD)), after)
    | _ => none
  | '&' :: rest =>
    match entityName? rest with
    | some (name, after) => (entityNames.get? (String.ofList name)).map (·, after)
    | none => none
  | _ => none

/-- The characters that the entity at the front of a destination or title stands for, and what
follows it. The code of no character is not replaced. -/
def quietEntity? : List Char → Option (String × List Char)
  | '&' :: '#' :: rest =>
    match numericCode? 8 8 rest with
    | some (code, ';' :: after) =>
      if isTextCode code then some (String.singleton (Char.ofNat code), after) else none
    | _ => none
  | '&' :: rest => entity? ('&' :: rest)
  | _ => none

/-- The characters of a destination or title with its escapes and entities replaced, `fuel` being
at least their number. -/
def unescapeChars : (fuel : Nat) → List Char → List Char
  | 0, chars => chars
  | _, [] => []
  | fuel + 1, '\\' :: c :: rest =>
    if isAsciiMark c then c :: unescapeChars fuel rest
    else '\\' :: unescapeChars fuel (c :: rest)
  | fuel + 1, '&' :: rest =>
    match quietEntity? ('&' :: rest) with
    | some (found, after) => found.toList ++ unescapeChars fuel after
    | none => '&' :: unescapeChars fuel rest
  | fuel + 1, c :: rest => c :: unescapeChars fuel rest
where
  /-- Whether a character can be escaped by a backslash. -/
  isAsciiMark (c : Char) : Bool :=
    let code := c.toNat
    (0x21 ≤ code && code ≤ 0x2F) || (0x3A ≤ code && code ≤ 0x40) || (0x5B ≤ code && code ≤ 0x60)
      || (0x7B ≤ code && code ≤ 0x7E)

/-- A destination or title with its escapes and entities replaced. -/
def unescape (chars : List Char) : List Char :=
  unescapeChars chars.length chars

end ReadmeAudit.Markdown
