import ReadmeAudit.Text.CaseTable

/-!
# Lower and upper case

`lower` maps a text to lower case by the full case maps: a capital `İ` becomes an `i` followed by
a combining dot, and a capital sigma at the end of a word becomes the final form `ς`. On ASCII
letters it is the usual map. `upper` maps to upper case, where a few characters become several.
-/

namespace ReadmeAudit.Text

/-- The lower-case form of a character other than a capital sigma. -/
def lowerChar (c : Char) : List Char :=
  if c.toNat < 0x80 then [if 'A' ≤ c ∧ c ≤ 'Z' then Char.ofNat (c.toNat + 0x20) else c]
  else if c.toNat = 0x130 then ['i', Char.ofNat 0x307]
  else [lowerMap.apply c]

/-- Whether the first character that counts in a direction away from a sigma is a letter that has
a case. -/
def meetsCased (chars : List Char) : Bool :=
  match chars.dropWhile caseIgnorableRanges.contains with
  | [] => false
  | c :: _ => casedRanges.contains c

/-- The lower-case form of a list of characters, given those before it in reverse order. -/
def lowerAfter (seen : List Char) : List Char → List Char
  | [] => []
  | c :: rest =>
    (if c.toNat = 0x3A3 then
      [Char.ofNat (if meetsCased seen && !meetsCased rest then 0x3C2 else 0x3C3)]
    else lowerChar c) ++ lowerAfter (c :: seen) rest

/-- The lower-case form of a text. -/
def lower (text : String) : String :=
  String.ofList (lowerAfter [] text.toList)

/-- Whether a character is a letter of a pattern, given in lower case, when case is ignored. The
two forms of `i` that differ by the dot, the long `s` and the Kelvin sign count as their ASCII
letters. -/
def sameLetter (letter c : Char) : Bool :=
  if c.toNat < 0x80 then lowerChar c == [letter]
  else (letter == 'i' && (c.toNat == 0x130 || c.toNat == 0x131))
    || (letter == 's' && c.toNat == 0x17F) || (letter == 'k' && c.toNat == 0x212A)

/-- What follows a word, given in lower case, at the front of a list of characters when case is
ignored. -/
def afterWord? : (word : List Char) → List Char → Option (List Char)
  | [], chars => some chars
  | letter :: word, c :: chars => if sameLetter letter c then afterWord? word chars else none
  | _ :: _, [] => none

/-- The upper-case form of a character. -/
def upperChar (c : Char) : List Char :=
  if c.toNat < 0x80 then [if 'a' ≤ c ∧ c ≤ 'z' then Char.ofNat (c.toNat - 0x20) else c]
  else match capitalSequences.find? (·.1 == c.toNat) with
    | some (_, sequence) => sequence
    | none => [upperMap.apply c]

/-- The upper-case form of a text. -/
def upper (text : String) : String :=
  String.ofList (text.toList.flatMap upperChar)

end ReadmeAudit.Text
