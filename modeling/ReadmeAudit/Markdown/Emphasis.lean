import ReadmeAudit.Markdown.Node

/-!
# Emphasis

Runs of `*` and `_` in line content may open and close emphasis. Each character of a run is a
`Delimiter`, and `pair` finds for each closer the nearest opener before it that fits: of the same
character, not yet paired, and not excluded by the rule that the lengths of two runs, one of which
can both open and close, must not add up to a multiple of three unless both are such multiples.
Two adjacent pairs that enclose each other are strong emphasis. `Piece.nest` turns line content
with its delimiters into nodes.
-/

namespace ReadmeAudit.Markdown

/-- One character of a run that may open or close emphasis. -/
structure Delimiter where
  /-- The character. -/
  mark : Char
  /-- The length of the run. -/
  length : Nat
  /-- The place among the pieces of the line content. -/
  place : Nat
  /-- Whether it can open emphasis. -/
  opens : Bool
  /-- Whether it can close emphasis. -/
  closes : Bool
  /-- The number of the delimiter that closes the emphasis it opens. -/
  partner : Option Nat
deriving Inhabited

/-- A piece of line content. -/
inductive Piece where
  /-- Plain text. -/
  | text (content : String)
  /-- A finished node. -/
  | node (node : Node)
  /-- A character that may open or close emphasis. -/
  | delimiter (mark : Char) (length : Nat) (opens closes : Bool)

namespace Delimiter

/-- The delimiters among pieces, in order. -/
def ofPieces (pieces : List Piece) : Array Delimiter :=
  (pieces.zipIdx.filterMap fun (piece, place) =>
    match piece with
    | .delimiter mark length opens closes => some ⟨mark, length, place, opens, closes, none⟩
    | _ => none).toArray

/-- Whether the rule of three excludes that `opener` is closed by `closer`. -/
def excluded (opener closer : Delimiter) : Bool :=
  (opener.closes || closer.opens) && (opener.length + closer.length) % 3 == 0
    && (opener.length % 3 != 0 || closer.length % 3 != 0)

/-- The state of the search for pairs. -/
structure Search where
  /-- The delimiters. -/
  delimiters : Array Delimiter
  /-- For each delimiter passed, how many before it lie inside finished pairs. -/
  jumps : Array Nat
  /-- The number below which no opener exists, for each kind of closer. -/
  floors : List ((Char × Nat) × Nat)
  /-- The number of the first delimiter of the current run. -/
  header : Nat
  /-- The place after the last delimiter, if the current run may go on there. -/
  expected : Option Nat

/-- The nearest opener for a closer among the delimiters below `bound` and not below `floor`. -/
def opener? (delimiters : Array Delimiter) (jumps : Array Nat) (closer : Delimiter)
    (floor bound : Nat) : Option Nat :=
  if floor < bound then
    let number := bound - 1
    let opener := delimiters.getD number default
    if opener.mark == closer.mark && opener.opens && opener.partner.isNone
        && !excluded opener closer then some number
    else opener? delimiters jumps closer floor (number - jumps.getD number 0)
  else none
termination_by bound
decreasing_by omega

namespace Search

/-- The kind of a closer, by which failed searches are remembered. -/
def closerKind (closer : Delimiter) : Char × Nat :=
  (closer.mark, (if closer.opens then 3 else 0) + closer.length % 3)

/-- The search after the delimiter of a number. -/
def step (search : Search) (number : Nat) : Search :=
  let closer := search.delimiters.getD number default
  let header :=
    if (search.delimiters.getD search.header default).mark == closer.mark
        && search.expected == some closer.place then search.header
    else number
  let search := { search with
    jumps := search.jumps.push 0, header, expected := some (closer.place + 1) }
  if closer.closes then
    let floor := (search.floors.lookup (closerKind closer)).getD 0
    let bound := header - search.jumps.getD header 0
    match opener? search.delimiters search.jumps closer floor bound with
    | some found =>
      let opener := search.delimiters.getD found default
      let last :=
        if 0 < found && !(search.delimiters.getD (found - 1) default).opens then
          search.jumps.getD (found - 1) 0 + 1
        else 0
      { search with
        delimiters := (search.delimiters.setIfInBounds number
          { closer with opens := false }).setIfInBounds found
            { opener with partner := some number, closes := false }
        jumps := (search.jumps.setIfInBounds number (number - found + last)).setIfInBounds
          found last
        expected := none }
    | none =>
      if bound = 0 then search
      else { search with floors := (closerKind closer, bound) :: search.floors }
  else search

end Search

/-- The delimiters with their partners. -/
def pair (delimiters : Array Delimiter) : Array Delimiter :=
  ((List.range delimiters.size).foldl Search.step ⟨delimiters, #[], [], 0, none⟩).delimiters

end Delimiter

/-- What becomes of a delimiter. -/
inductive Role where
  /-- It opens emphasis of a kind. -/
  | opens (kind : Kind)
  /-- It closes emphasis. -/
  | closes
  /-- It belongs to the mark of the delimiter next to it. -/
  | absorbed
deriving Inhabited

namespace Role

/-- The roles of the delimiters below `bound`, by their places. -/
def below (delimiters : Array Delimiter) : (bound : Nat) → List (Nat × Role)
  | 0 => []
  | number + 1 =>
    let opener := delimiters.getD number default
    match opener.partner with
    | none => below delimiters number
    | some partner =>
      let closer := delimiters.getD partner default
      let outerOpener := delimiters.getD (number - 1) default
      let outerCloser := delimiters.getD (partner + 1) default
      if 0 < number && outerOpener.partner == some (partner + 1)
          && outerOpener.mark == opener.mark && outerOpener.place + 1 == opener.place
          && outerCloser.place == closer.place + 1 then
        (opener.place, .opens .strong) :: (closer.place, .closes)
          :: (outerOpener.place, .absorbed) :: (outerCloser.place, .absorbed)
          :: below delimiters (number - 1)
      else (opener.place, .opens .emphasis) :: (closer.place, .closes) :: below delimiters number

end Role

/-- Nodes with adjacent texts joined. Escapes are joined with the text around them on demand. -/
def joinText (escapes : Bool) : List Node → List Node
  | [] => []
  | node :: rest =>
    let plain (kind : Kind) : Option String :=
      match kind with
      | .text content => some content
      | .escaped content => if escapes then some content else none
      | _ => none
    match plain node.kind, joinText escapes rest with
    | some content, next :: more =>
      match next.kind with
      | .text following => .leaf (.text (content ++ following)) :: more
      | _ => .leaf (.text content) :: next :: more
    | some content, [] => [.leaf (.text content)]
    | none, more => node :: more

namespace Piece

/-- The nodes of the innermost open emphasis, last first, and those of the emphasis around it. -/
abbrev Open := List Node × List (Kind × List Node)

/-- The open emphasis after a piece in its place. -/
def place (roles : List (Nat × Role)) (current : Open) (piece : Piece × Nat) : Open :=
  let (nodes, outer) := current
  match piece with
  | (.text content, _) => (.leaf (.text content) :: nodes, outer)
  | (.node finished, _) => (finished :: nodes, outer)
  | (.delimiter mark _ _ _, number) =>
    match roles.lookup number with
    | none => (.leaf (.text (String.singleton mark)) :: nodes, outer)
    | some .absorbed => (.leaf (.text "") :: nodes, outer)
    | some (.opens kind) => ([], (kind, nodes) :: outer)
    | some .closes =>
      match outer with
      | [] => (nodes, [])
      | (kind, before) :: outer => (.mk kind (joinText false nodes.reverse) :: before, outer)

/-- The nodes of line content. -/
def nest (pieces : List Piece) : List Node :=
  let delimiters := Delimiter.pair (Delimiter.ofPieces pieces)
  let roles := Role.below delimiters delimiters.size
  joinText false (pieces.zipIdx.foldl (place roles) ([], [])).1.reverse

end Piece

end ReadmeAudit.Markdown
