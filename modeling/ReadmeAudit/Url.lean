import ReadmeAudit.Text.Blank

/-!
# Addresses

An address in a text begins with the scheme `http` or `https` and runs up to a delimiter: a blank, a
bracket, or a quotation mark. Punctuation at its end belongs to the text around it. `Url.find` lists
the addresses of a text.
-/

namespace ReadmeAudit.Url

open Text

/-- Whether a character ends an address. -/
def isDelimiter (c : Char) : Bool :=
  isBlank c || ['<', '>', '(', ')', '[', ']', '"', '\'', '\x60'].contains c

/-- Whether a character may stand in an address. -/
def isInner (c : Char) : Bool :=
  !isDelimiter c

/-- Whether a character at the end of an address belongs to the text around it. -/
def isTrailing (c : Char) : Bool :=
  ['.', ',', ';', ':', '!', '?', '*', '_'].contains c

/-- The schemes, up to where the rest of an address begins. -/
def schemes : List (List Char) := ["http://".toList, "https://".toList]

/-- Whether characters begin with an address: a scheme and at least one character more. -/
def begins (chars : List Char) : Bool :=
  schemes.any fun scheme =>
    scheme.isPrefixOf chars && ((chars.drop scheme.length).head?.any isInner)

/-- The addresses in characters, with the punctuation at their ends. -/
def scan : List Char → List (List Char)
  | [] => []
  | c :: rest =>
    if begins (c :: rest) then (c :: rest.takeWhile isInner) :: scan (rest.dropWhile isInner)
    else scan rest
termination_by chars => chars.length
decreasing_by
  · exact Nat.lt_succ_of_le (List.dropWhile_sublist _).length_le
  · exact Nat.lt_succ_self _

/-- The different addresses of a text, in the order of their first occurrence. -/
def find (text : String) : List String :=
  ((scan text.toList).map fun url => String.ofList (dropRightWhile isTrailing url)).eraseDups

/-- The parts of addresses that are not checked. -/
def exempt : List String := ["registry.terraform.io/providers/"]

/-- Whether an address is checked. -/
def isChecked (url : String) : Bool :=
  !exempt.any (occursIn · url)

/-- The answer to a request. -/
inductive Response where
  /-- A status. -/
  | status (code : Int)
  /-- No answer, for a reason. -/
  | failed (reason : String)
deriving Repr, DecidableEq

end ReadmeAudit.Url
