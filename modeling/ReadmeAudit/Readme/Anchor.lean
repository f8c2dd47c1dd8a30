import ReadmeAudit.Text.Blank
import ReadmeAudit.Text.Case

/-!
# Anchors

Generated documentation marks each input and output by an anchor such as `<a name="input_size">`.
`Anchor.names` lists the names of the anchors of a type in the source text of a README. Case does
not matter in the tag.
-/

namespace ReadmeAudit

open Text

/-- What an anchor marks. -/
inductive AnchorType where
  /-- An input variable. -/
  | input
  /-- An output. -/
  | output
deriving Repr, DecidableEq

namespace AnchorType

/-- The word that stands for a type in anchors and in names of sections. -/
def word : AnchorType → String
  | input => "input"
  | output => "output"

/-- The types. -/
def all : List AnchorType := [input, output]

/-- Whether the name of a section mentions a type. -/
def isMentionedIn (type : AnchorType) (name : String) : Bool :=
  occursIn type.word (lower name)

/-- The type that the first name mentioning one mentions, inputs being tried before outputs. -/
def expectedBy (names : List String) : Option AnchorType :=
  names.findSome? fun name => all.find? (·.isMentionedIn name)

end AnchorType

namespace Anchor

/-- Whether a character may stand in the name of an anchor. -/
def isNameChar (c : Char) : Bool :=
  c != '"' && !isBlank c

/-- The name of the anchor at the front of a list of characters. -/
def name? (type : AnchorType) (chars : List Char) : Option (List Char) :=
  match afterWord? ['<', 'a'] chars with
  | some (c :: rest) =>
    if isBlank c then
      match afterWord? ("name=\"" ++ type.word ++ "_").toList (rest.dropWhile isBlank) with
      | some chars =>
        let name := chars.takeWhile isNameChar
        if name.isEmpty then none
        else if (chars.drop name.length).head? = some '"' then some name else none
      | none => none
    else none
  | _ => none

/-- The names of the anchors of a type in a list of characters, in order. -/
def namesIn (type : AnchorType) : List Char → List String
  | [] => []
  | c :: rest =>
    match name? type (c :: rest) with
    | some name => String.ofList name :: namesIn type rest
    | none => namesIn type rest

/-- The names of the anchors of a type in a text, in order. -/
def names (type : AnchorType) (text : String) : List String :=
  namesIn type text.toList

end Anchor

end ReadmeAudit
