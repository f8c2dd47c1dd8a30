import ReadmeAudit.CommandLine

/-!
# The program

The outer layer of the program: it takes a snapshot of the files that an audit looks at, of the
environment and of the accounts, runs the audit on it, and prints the output. Links are followed. A
file that cannot be read ends the program with the report of the system, so that no audit sees a
file other than it is. The program has no access to a network: every address that is checked counts
as one that could not be requested.
-/

namespace ReadmeAudit.Snapshot

open Files

/-! ### The environment -/

/-- The variables of the environment that are used. -/
def consulted : List String :=
  ["HOME", "COLUMNS", "LINES", "README_PATH", "MODULE_PATH", "FORMAT", "VERBOSE",
    "GITHUB_WORKSPACE"]

/-- The environment. -/
def environment : IO (List (String × String)) := do
  let values ← consulted.mapM fun name => do
    return (← IO.getEnv name).map fun value => (name, value)
  return values.filterMap id

/-- The accounts in the lines of a password file, for the user of a number. -/
def accountsOf (passwords number : String) : Accounts :=
  let entries := (passwords.splitOn "\n").filterMap fun line =>
    match line.splitOn ":" with
    | [name, _, number, _, _, directory, _] => some (name, number, directory)
    | _ => none
  let directoryOf (p : String × String × String → Bool) : Option String :=
    (entries.find? p).map fun (_, _, directory) => directory
  ⟨directoryOf (·.2.1 == number), fun user => directoryOf (·.1 == user)⟩

/-- The text of a file of the system, which is empty if there is none. -/
def systemText (path : String) : IO String := do
  try
    IO.FS.readFile path
  catch _ => return ""

/-- The number of the user in the lines that the system gives about a process. -/
def userNumber (status : String) : String :=
  let fields := (status.splitOn "\n").find? (Text.startsWith "Uid:")
  ((fields.getD "").splitOn "\t").getD 1 ""

/-- The accounts. -/
def accounts : IO Accounts := do
  return accountsOf (← systemText "/etc/passwd") (userNumber (← systemText "/proc/self/status"))

/-! ### Files -/

/-- The size of what stands at a path. -/
def sizeAt (path : String) : IO Nat := do
  let place := (← IO.currentDir) / path
  return (← place.metadata).byteSize.toNat

/-- What stands at a path. Directories are read to a depth, and in them only directories and module
files. -/
def entry? (path : String) : (depth : Nat) → IO (Option Entry)
  | 0 => return none
  | depth + 1 => do
    let place := (← IO.currentDir) / path
    if ← place.isDir then
      let mut entries := []
      for found in ← place.readDir do
        let name := found.fileName
        if (← found.path.isDir) || Terraform.isModuleFile name then
          match ← entry? (path ++ "/" ++ name) depth with
          | some entry => entries := (name, entry) :: entries
          | none => pure ()
      return some (.directory (← sizeAt path) entries.reverse)
    else if ← place.pathExists then return some (.file (← IO.FS.readBinFile path))
    else return none

/-- The files with the directories on a way from the root. -/
def addWay (files : FileSystem) (way : List String) : IO FileSystem := do
  let mut files := files
  for count in List.range way.length do
    let names := way.take (count + 1)
    let path := Path.text ⟨.slash, names⟩
    if ← ((← IO.currentDir) / path).isDir then
      files := files.makeDirectory (← sizeAt path) names
  return files

/-- The files with what stands at a path, read to a depth. -/
def add (files : FileSystem) (path : Path) (depth : Nat) : IO FileSystem := do
  let absolute := path.resolve files.cwd
  match ← entry? absolute.text depth with
  | some entry =>
    let files ← addWay files absolute.names.dropLast
    return files.alter 0 (fun _ => some entry) absolute.names
  | none => return files

/-- The depth to which the modules of a caller are read. No path of more than this number of bytes
is taken by the system, so that nothing lies deeper. -/
def callerDepth : Nat := 4096

/-- The files that an audit with some options looks at. -/
def ofOptions (files : FileSystem) (options : Options) : IO FileSystem := do
  match options.readme, options.module with
  | some readme, some module =>
    let mut files ← add files module 2
    if options.scope = .caller then
      files ← add files (module.child "caller") callerDepth
    for path in Check.filePaths readme module options.files do
      if (files.list path).isEmpty then
        files ← add files path 1
    return files
  | _, _ => return files

/-- The world of a command line: first the file of options is read, then what the options ask for.
-/
def world (arguments : List String) : IO World := do
  let cwd := Path.ofText (← IO.currentDir).toString
  let start ← addWay ⟨.empty (← sizeAt "/"), cwd⟩ cwd.names
  let before : World := ⟨start, ← environment, ← accounts, fun _ => .failed "no network access"⟩
  match CommandLine.request arguments with
  | .ok (.audit found) =>
    let file := (found.value? .config).map Path.ofText
    let before := { before with files := ← add start (file.getD Options.defaultFile) 1 }
    match ((Options.resolve before file (CommandLine.settings found)).outcome .empty).1 with
    | .ok options => return { before with files := ← ofOptions before.files options }
    | .error _ => return before
  | _ => return before

end ReadmeAudit.Snapshot

/-- The program. -/
def main (arguments : List String) : IO UInt32 := do
  let output := ReadmeAudit.CommandLine.run (← ReadmeAudit.Snapshot.world arguments) arguments
  IO.eprint output.err
  IO.print output.out
  return output.code.toUInt32
