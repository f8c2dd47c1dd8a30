/-!
# Blank characters

`isBlank` is the set of characters that count as white space in names, headings and options, and
`strip` removes them from both ends of a text. The cutting functions of this module work on the
characters of a text: `before` keeps what stands ahead of the first occurrence of a character,
`dropLead` and `dropTail` remove a given beginning or end when it is there, and `occursIn` says
whether one text stands somewhere inside another.
-/

namespace ReadmeAudit.Text

/-- A character that counts as white space: the separators and the control characters that move
the cursor or separate information. -/
def isBlank (c : Char) : Bool :=
  let code := c.toNat
  (0x09 ≤ code && code ≤ 0x0D) || (0x1C ≤ code && code ≤ 0x20) || code == 0x85 || code == 0xA0
    || code == 0x1680 || (0x2000 ≤ code && code ≤ 0x200A) || code == 0x2028 || code == 0x2029
    || code == 0x202F || code == 0x205F || code == 0x3000

/-- Removal of the characters with a property from the right end. -/
def dropRightWhile (p : Char → Bool) (chars : List Char) : List Char :=
  (chars.reverse.dropWhile p).reverse

/-- Removal of the characters with a property from both ends. -/
def trimChars (p : Char → Bool) (chars : List Char) : List Char :=
  dropRightWhile p (chars.dropWhile p)

/-- Removal of the characters with a property from both ends of a text. -/
def trim (p : Char → Bool) (text : String) : String :=
  String.ofList (trimChars p text.toList)

/-- Removal of blank characters from both ends of a text. -/
def strip (text : String) : String :=
  trim isBlank text

/-- Whether a text has no other than blank characters. -/
def isBlankText (text : String) : Bool :=
  text.toList.all isBlank

/-- The part of a text ahead of the first occurrence of a character, or all of it. -/
def before (c : Char) (text : String) : String :=
  String.ofList (text.toList.takeWhile (· != c))

/-- Whether a text begins with another. -/
def startsWith (lead text : String) : Bool :=
  lead.toList.isPrefixOf text.toList

/-- Whether a list of characters stands somewhere inside another. -/
def occursInChars (part : List Char) : List Char → Bool
  | [] => part.isEmpty
  | c :: rest => part.isPrefixOf (c :: rest) || occursInChars part rest

/-- Whether a text stands somewhere inside another. -/
def occursIn (part text : String) : Bool :=
  occursInChars part.toList text.toList

/-- A text without the given beginning, or unchanged when it begins otherwise. -/
def dropLead (lead text : String) : String :=
  if startsWith lead text then String.ofList (text.toList.drop lead.toList.length) else text

/-- A text without the given end, or unchanged when it ends otherwise. -/
def dropTail (tail text : String) : String :=
  if tail.toList.isSuffixOf text.toList then
    String.ofList (text.toList.take (text.toList.length - tail.toList.length))
  else text

/-- The pieces of a list of characters between the occurrences of a character. -/
def splitChars (c : Char) : List Char → List (List Char)
  | [] => [[]]
  | d :: rest =>
    if d = c then [] :: splitChars c rest
    else match splitChars c rest with
      | [] => [[d]]
      | piece :: pieces => (d :: piece) :: pieces

end ReadmeAudit.Text
