import ReadmeAudit.Text.Blank
import ReadmeAudit.Text.Quoted
import ReadmeAudit.Markdown.Entity

/-!
# Link destinations

The destination of a link is read from the source by `destination?`, the title after it by
`title?`. `normalize` writes a destination in percent encoding, `isSafe` refuses the schemes that
run scripts or reach local files, and `decode` is the form in which an automatic link shows its
destination to the reader.
-/

namespace ReadmeAudit.Markdown

open Text Html

/-- The content of a destination between angle brackets, last character first, and what follows
it. -/
def bracketed? : (seen : List Char) → List Char → Option (List Char × List Char)
  | _, [] => none
  | _, '\n' :: _ => none
  | _, '<' :: _ => none
  | seen, '>' :: rest => some (seen.reverse, rest)
  | seen, '\\' :: c :: rest => bracketed? (c :: '\\' :: seen) rest
  | seen, c :: rest => bracketed? (c :: seen) rest

/-- The characters of a destination without brackets, with `depth` parentheses open, and what
follows it. The depth at the end has to be zero, and never exceeds 32. -/
def bareDestination? : (depth : Nat) → (seen : List Char) → List Char →
    Option (List Char × List Char)
  | depth, seen, [] => if depth = 0 then some (seen.reverse, []) else none
  | depth, seen, '\\' :: c :: rest =>
    if c = ' ' then if depth = 0 then some (seen.reverse, '\\' :: c :: rest) else none
    else bareDestination? depth (c :: '\\' :: seen) rest
  | depth, seen, c :: rest =>
    if c.toNat ≤ 0x20 || c.toNat == 0x7F then
      if depth = 0 then some (seen.reverse, c :: rest) else none
    else if c = '(' then
      if depth + 1 > 32 then none else bareDestination? (depth + 1) (c :: seen) rest
    else if c = ')' then
      match depth with
      | 0 => some (seen.reverse, c :: rest)
      | depth + 1 => bareDestination? depth (c :: seen) rest
    else bareDestination? depth (c :: seen) rest

/-- The destination at the front of a list of characters, unescaped, and what follows it. -/
def destination? (chars : List Char) : Option (List Char × List Char) :=
  match chars with
  | '<' :: rest => (bracketed? [] rest).map fun (found, after) => (unescape found, after)
  | _ =>
    match bareDestination? 0 [] chars with
    | some ([], _) => none
    | some (found, after) => some (unescape found, after)
    | none => none

/-- The characters of a title up to its closing mark, last character first, and what follows it. -/
def titleBody? (mark : Char) : (seen : List Char) → List Char → Option (List Char × List Char)
  | _, [] => none
  | seen, '\\' :: c :: rest => titleBody? mark (c :: '\\' :: seen) rest
  | seen, c :: rest =>
    if c = mark then some (seen.reverse, rest)
    else if c = '(' ∧ mark = ')' then none
    else titleBody? mark (c :: seen) rest

/-- The title at the front of a list of characters, and what follows it. -/
def title? : List Char → Option (List Char × List Char)
  | '"' :: rest => titleBody? '"' [] rest
  | '\'' :: rest => titleBody? '\'' [] rest
  | '(' :: rest => titleBody? ')' [] rest
  | _ => none

/-- Whether a character stands for itself in a percent-encoded destination. -/
def isPlain (c : Char) : Bool :=
  isLetter c || isDigit c || ";/?:@&=+$,-_.!~*'()#".toList.contains c

/-- The percent encoding of a character. -/
def percent (c : Char) : List Char :=
  (String.singleton c).toUTF8.toList.flatMap fun byte =>
    '%' :: (hexText 2 byte.toNat).toList.map Char.toUpper

/-- The percent encoding of a list of characters, in which escapes that are there already stay. -/
def percentEncode : List Char → List Char
  | '%' :: a :: b :: rest =>
    if isHexDigit a && isHexDigit b then '%' :: a :: b :: percentEncode rest
    else percent '%' ++ percentEncode (a :: b :: rest)
  | c :: rest => (if isPlain c then [c] else percent c) ++ percentEncode rest
  | [] => []

/-- A destination in the form in which a link holds it. -/
def normalize (destination : List Char) : String :=
  String.ofList (percentEncode (trimChars isBlank destination))

/-- Whether a link to a destination is formed: it does not run a script, and does not reach a local
file or data other than an image. -/
def isSafe (destination : String) : Bool :=
  let chars := destination.toList.map Char.toLower
  let begins (lead : String) : Bool := lead.toList.isPrefixOf chars
  !(begins "vbscript:" || begins "javascript:" || begins "file:" || begins "data:")
    || begins "data:image/gif;" || begins "data:image/png;" || begins "data:image/jpeg;"
    || begins "data:image/webp;"

/-- The byte that a percent escape at the front of a list stands for, and what follows it. -/
def escapedByte? : List Char → Option (Nat × List Char)
  | '%' :: a :: b :: rest =>
    if isHexDigit a && isHexDigit b then some (hexValue [a, b], rest) else none
  | _ => none

/-- The `count` bytes that continue a character, and what follows them. -/
def continuation? : (count : Nat) → List Char → Option (List Nat × List Char)
  | 0, chars => some ([], chars)
  | count + 1, chars =>
    match escapedByte? chars with
    | some (byte, rest) =>
      if byte / 64 = 2 then (continuation? count rest).map fun (more, after) =>
        (byte :: more, after)
      else none
    | none => none

/-- The character that a lead byte and its continuation encode, or as many replacement characters
as there are bytes. -/
def decodeBytes (bytes : List Nat) : List Char :=
  match String.fromUTF8? ⟨(bytes.map (·.toUInt8)).toArray⟩ with
  | some text => text.toList
  | none => bytes.map fun _ => Char.ofNat 0xFFFD

/-- A destination with its percent escapes decoded, except those of reserved characters, `fuel`
being at least the number of characters. -/
def decodeChars : (fuel : Nat) → List Char → List Char
  | 0, chars => chars
  | _, [] => []
  | fuel + 1, c :: rest =>
    match escapedByte? (c :: rest) with
    | none => c :: decodeChars fuel rest
    | some (byte, after) =>
      let several (count : Nat) : Option (List Char) :=
        (continuation? count after).map fun (more, after) =>
          decodeBytes (byte :: more) ++ decodeChars fuel after
      if byte < 0x80 then
        let found := Char.ofNat byte
        (if ";/?:@&=+$,#%".toList.contains found then percent found else [found])
          ++ decodeChars fuel after
      else
        let decoded :=
          if byte / 32 = 6 then several 1
          else if byte / 16 = 14 then several 2
          else if byte / 8 = 30 then several 3
          else none
        decoded.getD (Char.ofNat 0xFFFD :: decodeChars fuel after)

/-- The text that an automatic link shows for its destination. -/
def decode (destination : List Char) : String :=
  let chars := trimChars isBlank destination
  String.ofList (decodeChars chars.length chars)

/-- A reference label in the form in which labels are compared: blank runs become one space, and
letters that differ in case only become equal. -/
def normalizeLabel (label : List Char) : String :=
  upper (lower (String.ofList (collapse (trimChars isBlank label))))
where
  /-- The characters with each run of blank ones replaced by a space. -/
  collapse : List Char → List Char
    | c :: d :: rest =>
      if isBlank c then
        if isBlank d then collapse (d :: rest) else ' ' :: collapse (d :: rest)
      else c :: collapse (d :: rest)
    | [c] => if isBlank c then [' '] else [c]
    | [] => []

end ReadmeAudit.Markdown
