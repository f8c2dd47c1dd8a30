import ReadmeAudit.Markdown.Block
import ReadmeAudit.Markdown.Block.Start
import ReadmeAudit.Markdown.Destination

/-!
# Definitions of link references

A definition `[label]: destination "title"` may go over several lines, as long as each further line
continues it. `Scope.definition?` reads one and says how many lines it takes. A title that does not
end its line is not part of the definition, which then ends after the destination.
-/

namespace ReadmeAudit.Markdown

open Text

/-- A position in the lines that a definition may use. -/
structure Cursor where
  /-- The rest of the current line, with its line end. -/
  here : List Char
  /-- The further lines that continue the current one. -/
  later : List (List Char)
  /-- The number of lines used so far. -/
  used : Nat

namespace Cursor

/-- The position after spaces, tabs and line ends. -/
def skipBlank (here : List Char) (later : List (List Char)) (used : Nat) : Cursor :=
  match here.dropWhile isSpace, later with
  | '\n' :: _, [] => ⟨[], [], used⟩
  | '\n' :: _, next :: later => skipBlank next later (used + 1)
  | rest, later => ⟨rest, later, used⟩
termination_by later.length

/-- The label up to its closing bracket, last character first, and the position after the
bracket. -/
def label? : (fuel : Nat) → (seen : List Char) → Cursor → Option (List Char × Cursor)
  | 0, _, _ => none
  | fuel + 1, seen, cursor =>
    match cursor.here with
    | [] =>
      match cursor.later with
      | [] => none
      | line :: later => label? fuel seen ⟨line, later, cursor.used + 1⟩
    | '[' :: _ => none
    | ']' :: rest => some (seen.reverse, { cursor with here := rest })
    | '\\' :: c :: rest => label? fuel (c :: '\\' :: seen) { cursor with here := rest }
    | c :: rest => label? fuel (c :: seen) { cursor with here := rest }

/-- The number of characters left, and of line changes. -/
def size (cursor : Cursor) : Nat :=
  cursor.later.foldl (fun size line => size + line.length + 1) cursor.here.length

/-- The title at a position, which may go over several lines, and the position after it. The
characters of the title up to its closing mark are collected last first. -/
def titleBody? (mark : Char) : (fuel : Nat) → (seen : List Char) → Cursor →
    Option (List Char × Cursor)
  | 0, _, _ => none
  | fuel + 1, seen, cursor =>
    match cursor.here with
    | [] =>
      match cursor.later with
      | [] => none
      | line :: later => titleBody? mark fuel seen ⟨line, later, cursor.used + 1⟩
    | '\\' :: c :: rest => titleBody? mark fuel (c :: '\\' :: seen) { cursor with here := rest }
    | c :: rest =>
      if c = mark then some (seen.reverse, { cursor with here := rest })
      else if c = '(' ∧ mark = ')' then none
      else titleBody? mark fuel (c :: seen) { cursor with here := rest }

/-- The title at a position, and the position after it. -/
def title? (cursor : Cursor) : Option (List Char × Cursor) :=
  let body (mark : Char) (rest : List Char) :=
    titleBody? mark (cursor.size + 1) [] { cursor with here := rest }
  match cursor.here with
  | '"' :: rest => body '"' rest
  | '\'' :: rest => body '\'' rest
  | '(' :: rest => body ')' rest
  | _ => none

/-- Whether only spaces stand between a position and the end of its line. -/
def isLineEnd (cursor : Cursor) : Bool :=
  match cursor.here.dropWhile isSpace with
  | [] => true
  | c :: _ => c == '\n'

end Cursor

namespace Scope

/-- The characters of a line from its content on, with the line end. -/
def fullLine (scope : Scope) (number : Nat) : List Char :=
  let line := scope.line number
  line.body ++ if line.terminated then ['\n'] else []

/-- Whether a line continues a definition that begins above it. -/
def continuesDefinition (scope : Scope) (number : Nat) : Bool :=
  let line := scope.line number
  !line.isEmpty
    && (scope.isCode number || line.indent < 0
      || !scope.interrupted .definition number scope.limit)

/-- The lines that may continue a definition, from a line on. -/
def definitionLines (scope : Scope) : (fuel number : Nat) → List (List Char)
  | 0, _ => []
  | fuel + 1, number =>
    if scope.continuesDefinition number then
      scope.fullLine number :: definitionLines scope fuel (number + 1)
    else []

/-- The end of a definition whose destination ends at a position: the number of lines it takes, or
nothing if the rest of the line does not fit. -/
def definitionEnd? (afterDestination : Cursor) : Option Nat :=
  let withoutTitle := if afterDestination.isLineEnd then some afterDestination.used else none
  let start := Cursor.skipBlank afterDestination.here afterDestination.later
    afterDestination.used
  if start.used == afterDestination.used
      && start.here.length == afterDestination.here.length then withoutTitle
  else match start.title? with
    | none => withoutTitle
    | some (title, afterTitle) =>
      if afterTitle.isLineEnd then some afterTitle.used
      else if title.isEmpty then none
      else withoutTitle

/-- The definition that begins at a line, and the number of the line after it. -/
def definition? (scope : Scope) (number : Nat) : Option (Definition × Nat) :=
  if scope.isCode number then none
  else match scope.fullLine number with
    | '[' :: rest =>
      let later := scope.definitionLines (scope.limit - (number + 1)) (number + 1)
      let start : Cursor := ⟨rest, later, 1⟩
      match start.label? (start.size + 1) [] with
      | some (label, after) =>
        match after.here with
        | ':' :: rest =>
          let before := Cursor.skipBlank rest after.later after.used
          match destination? before.here with
          | some (destination, rest) =>
            let destination := normalize destination
            match isSafe destination, definitionEnd? { before with here := rest } with
            | true, some used =>
              let label := normalizeLabel label
              if label.isEmpty then none else some (⟨label, destination⟩, number + used)
            | _, _ => none
          | none => none
        | _ => none
      | none => none
    | _ => none

end Scope

end ReadmeAudit.Markdown
