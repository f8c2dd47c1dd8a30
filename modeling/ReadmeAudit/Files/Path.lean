import ReadmeAudit.Text.Blank

/-!
# Paths

A `Path` is the list of the names along the way, after a root if it is absolute. Empty names and
single points are left out, and double points are kept until the path is made absolute by
`Path.resolve`, which removes them.
-/

namespace ReadmeAudit.Files

open Text

/-- The beginning of a path. -/
inductive Root where
  /-- The path is relative. -/
  | none
  /-- One slash. -/
  | slash
  /-- Exactly two slashes, which are kept apart from one. -/
  | doubleSlash
deriving Repr, DecidableEq

/-- A path. -/
structure Path where
  /-- The beginning. -/
  root : Root
  /-- The names after it. -/
  names : List String
deriving Repr, DecidableEq

namespace Root

/-- The text of a beginning. -/
def text : Root → String
  | none => ""
  | slash => "/"
  | doubleSlash => "//"

/-- The beginning of a text. -/
def ofChars : List Char → Root
  | '/' :: '/' :: '/' :: _ => slash
  | '/' :: '/' :: _ => doubleSlash
  | '/' :: _ => slash
  | _ => none

end Root

namespace Path

/-- The path that a text denotes. -/
def ofText (text : String) : Path :=
  ⟨Root.ofChars text.toList,
    ((splitChars '/' text.toList).map String.ofList).filter fun name => name != "" && name != "."⟩

/-- The text of a path. -/
def text (path : Path) : String :=
  if path.root = .none && path.names.isEmpty then "."
  else path.root.text ++ "/".intercalate path.names

/-- Whether a path has a root. -/
def isAbsolute (path : Path) : Bool :=
  path.root != .none

/-- A path seen from another. -/
def append (path other : Path) : Path :=
  if other.isAbsolute then other else ⟨path.root, path.names ++ other.names⟩

instance : Append Path := ⟨append⟩

/-- A path with a name added. -/
def child (path : Path) (name : String) : Path :=
  ⟨path.root, path.names ++ [name]⟩

/-- The last name of a path. -/
def name (path : Path) : String :=
  path.names.getLastD ""

/-- The path without its last name. -/
def parent (path : Path) : Path :=
  ⟨path.root, path.names.dropLast⟩

/-- The part of a name from its last point on, unless the point is its first or last character. -/
def suffixOf (name : String) : String :=
  let chars := name.toList
  let tail := (chars.reverse.takeWhile (· != '.')).reverse
  if tail.isEmpty || chars.length ≤ tail.length + 1 then "" else String.ofList ('.' :: tail)

/-- The suffix of the last name of a path. -/
def suffix (path : Path) : String :=
  suffixOf path.name

/-- Names with each double point removed together with the name before it. The names passed are
given last first. -/
def normalize : (passed : List String) → List String → List String
  | passed, [] => passed.reverse
  | passed, name :: rest =>
    if name = ".." then normalize passed.tail rest else normalize (name :: passed) rest

/-- The absolute path without double points that a path denotes in a working directory. -/
def resolve (path cwd : Path) : Path :=
  ⟨.slash, normalize [] (if path.isAbsolute then path.names else cwd.names ++ path.names)⟩

/-- Whether names are ordered before others or equal to them: the first difference decides. -/
def namesLe : List String → List String → Bool
  | [], _ => true
  | _ :: _, [] => false
  | name :: names, other :: others =>
    if name = other then namesLe names others else decide (name ≤ other)

/-- Whether a path is ordered before another or equal to it: the root decides, then the names. -/
def le (path other : Path) : Bool :=
  namesLe (path.root.text :: path.names) (other.root.text :: other.names)

/-- Paths in order. -/
def sort (paths : List Path) : List Path :=
  paths.mergeSort le

end Path

end ReadmeAudit.Files
