import ReadmeAudit.Files.Fault
import ReadmeAudit.Files.Path
import ReadmeAudit.Pairs

/-!
# File trees

A `FileSystem` is a tree of directories and files, with a working directory. `FileSystem.find`
follows a path the way the system does: each name but the last has to lead to a directory, and a
double point leads back to the directory above. There are no links and no permissions in a tree:
every name leads to an entry of its own, and every file can be read.
-/

namespace ReadmeAudit.Files

open Text

/-- A file or a directory. -/
inductive Entry where
  /-- A file with its content. -/
  | file (content : ByteArray)
  /-- A directory with the size that the system tells of it, and with its entries in the order in
  which the system lists them. -/
  | directory (size : Nat) (entries : List (String × Entry))

namespace Entry

/-- An empty directory of a size. -/
def empty (size : Nat) : Entry := directory size []

/-- Whether an entry is a directory. -/
def isDirectory : Entry → Bool
  | directory _ _ => true
  | file _ => false

/-- Whether an entry is a file. -/
def isFile (entry : Entry) : Bool :=
  !entry.isDirectory

/-- The entries of a directory. -/
def entries : Entry → List (String × Entry)
  | directory _ entries => entries
  | file _ => []

/-- The size of an entry in bytes. -/
def size : Entry → Nat
  | file content => content.size
  | directory size _ => size

/-- The directory that stands somewhere, or an empty one of a size that is made in its place. -/
def orMade (made : Nat) : Option Entry → Entry
  | some (directory size entries) => directory size entries
  | _ => empty made

/-- The entry with a change made at the end of a way through it, along which directories of a size
are made where there are none. -/
def alter (made : Nat) (change : Option Entry → Option Entry) :
    (way : List String) → Option Entry → Option Entry
  | [], entry => change entry
  | name :: way, entry =>
    let old := orMade made entry
    match alter made change way (old.entries.lookup name) with
    | some new => some (directory old.size (Pairs.put name new old.entries))
    | none => some (directory old.size (old.entries.filter (·.1 != name)))

mutual

/-- The paths of the files at and below an entry whose names have a property. -/
def filesAt (p : String → Bool) (path : Path) : Entry → List Path
  | file _ => if p path.name then [path] else []
  | directory _ entries => filesIn p path entries

/-- The paths of the files at and below the entries of a directory. -/
def filesIn (p : String → Bool) (path : Path) : List (String × Entry) → List Path
  | [] => []
  | pair :: rest => filesOf p path pair ++ filesIn p path rest

/-- The paths of the files at and below an entry of a directory. -/
def filesOf (p : String → Bool) (path : Path) : String × Entry → List Path
  | (name, entry) => filesAt p (path.child name) entry

end

end Entry

/-- Why an access to a path fails. -/
inductive AccessError where
  /-- The system refuses it. -/
  | refused (fault : Fault)
  /-- The path has a character of code zero. -/
  | zeroCharacter
deriving Repr, DecidableEq

/-- A file system with a working directory. -/
structure FileSystem where
  /-- The root directory. -/
  root : Entry
  /-- The working directory, an absolute path. -/
  cwd : Path

namespace FileSystem

/-- The greatest number of bytes of a name. -/
def nameLimit : Nat := 255

/-- The entry at the end of a way that begins in the first of the directories passed, which are
given innermost first. -/
def follow : (passed : List Entry) → (way : List String) → Except Reason Entry
  | [], _ => .error .notFound
  | here :: _, [] => .ok here
  | here :: above, name :: way =>
    match here with
    | .file _ => .error .notADirectory
    | .directory _ entries =>
      if name = ".." then follow (if above.isEmpty then [here] else above) way
      else if nameLimit < name.utf8ByteSize then .error .nameTooLong
      else match entries.lookup name with
        | none => .error .notFound
        | some entry => follow (entry :: here :: above) way

/-- The entry that a path leads to. -/
def find (files : FileSystem) (path : Path) : Except AccessError Entry :=
  if path.text.toList.contains (Char.ofNat 0) then .error .zeroCharacter
  else
    let way := if path.isAbsolute then path.names else files.cwd.names ++ path.names
    match follow [files.root] way with
    | .ok entry => .ok entry
    | .error reason => .error (.refused ⟨reason, path.text⟩)

/-- Whether a path leads to an entry with a property. A path that leads nowhere does not, and any
other fault is passed on. -/
def test (files : FileSystem) (p : Entry → Bool) (path : Path) : Except Fault Bool :=
  match files.find path with
  | .ok entry => .ok (p entry)
  | .error .zeroCharacter => .ok false
  | .error (.refused fault) =>
    if fault.reason = .notFound || fault.reason = .notADirectory then .ok false
    else .error fault

/-- Whether a path leads to anything. -/
def isThere (files : FileSystem) (path : Path) : Except Fault Bool :=
  files.test (fun _ => true) path

/-- Whether a path leads to a directory. -/
def isDirectory (files : FileSystem) (path : Path) : Except Fault Bool :=
  files.test Entry.isDirectory path

/-- The content of the file that a path leads to. -/
def read (files : FileSystem) (path : Path) : Except AccessError ByteArray :=
  match files.find path with
  | .ok (.file content) => .ok content
  | .ok (.directory _ _) => .error (.refused ⟨.isADirectory, path.text⟩)
  | .error error => .error error

/-- The entries of the directory that a path leads to. -/
def list (files : FileSystem) (path : Path) : List (String × Entry) :=
  match files.find path with
  | .ok entry => entry.entries
  | .error _ => []

/-! ### Changes

The changes make directories of a given size along the way, where there are none. -/

/-- The file system with a change at the end of a way from its root. -/
def alter (files : FileSystem) (made : Nat) (change : Option Entry → Option Entry)
    (way : List String) : FileSystem :=
  { files with root := (Entry.alter made change way (some files.root)).getD (.empty made) }

/-- The file system with a file of a content. -/
def write (files : FileSystem) (made : Nat) (way : List String) (content : ByteArray) :
    FileSystem :=
  files.alter made (fun _ => some (.file content)) way

/-- The file system with a directory, which keeps its size and its entries if it is there. -/
def makeDirectory (files : FileSystem) (made : Nat) (way : List String) : FileSystem :=
  files.alter made (fun entry => some (entry.getD (.empty made))) way

/-- The file system without an entry. -/
def remove (files : FileSystem) (made : Nat) (way : List String) : FileSystem :=
  files.alter made (fun _ => none) way

end FileSystem

/-! ### Text files -/

/-- The characters of a text with line ends unified. -/
def unifyLineEnds : List Char → List Char
  | '\r' :: '\n' :: rest => '\n' :: unifyLineEnds rest
  | '\r' :: rest => '\n' :: unifyLineEnds rest
  | c :: rest => c :: unifyLineEnds rest
  | [] => []

/-- The text that a content encodes, with line ends unified. -/
def textOf? (content : ByteArray) : Option String :=
  (String.fromUTF8? content).map fun text => String.ofList (unifyLineEnds text.toList)

end ReadmeAudit.Files
