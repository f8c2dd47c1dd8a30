import ReadmeAudit.Files.Tree
import ReadmeAudit.Hcl.Reader
import ReadmeAudit.Terraform.Declaration
import ReadmeAudit.Terraform.Pool
import ReadmeAudit.Trace

/-!
# Modules

A `Module` is a directory with module files. What it declares is read from the files in the
directory itself, or, if it is a workspace, from the main file of the caller in it and from all the
files below the caller's own modules. These are read as one list for each directory, by a pool. A
file that does not exist declares nothing.
-/

namespace ReadmeAudit.Terraform

open Text Files Hcl

/-- Which files declare the resources of a module. -/
inductive Scope where
  /-- Those in the directory of the module. -/
  | module
  /-- Those of a caller and of the modules that it has. -/
  | caller
deriving Repr, DecidableEq

namespace Scope

/-- The name of a scope. -/
def name : Scope → String
  | module => "module"
  | caller => "caller"

/-- The scopes. -/
def all : List Scope := [module, caller]

/-- The scope of a name. -/
def ofName? (name : String) : Option Scope :=
  let wanted := lower (strip name)
  all.find? (·.name == wanted)

end Scope

/-- A module. -/
structure Module where
  /-- The directory. -/
  path : Path
  /-- The files that are read. -/
  scope : Scope
deriving Repr, DecidableEq

/-! ### Files -/

/-- The fields of a module file, if it exists. -/
def load (files : FileSystem) (path : Path) : Except Failure (Option Fields) :=
  match files.read path with
  | .error (.refused fault) =>
    if fault.reason = .notFound then .ok none
    else .error (.extraction (.unreadable path.name fault))
  | .error .zeroCharacter => .error (.extraction (.malformed path.name))
  | .ok content =>
    match (textOf? content).bind Hcl.parse? with
    | some fields => .ok (some fields)
    | none => .error (.extraction (.malformed path.name))

/-- What a module file declares. -/
def scanFile (files : FileSystem) (path : Path) : Except Failure Inventory := do
  match ← load files path with
  | some fields => definitions fields
  | none => return ⟨[], []⟩

/-- What two inventories hold together. -/
def join (first second : Inventory) : Inventory :=
  ⟨first.resources ++ second.resources, first.dataSources ++ second.dataSources⟩

/-- What several module files declare, in their order. The first that cannot be read counts. -/
def scanFiles (files : FileSystem) : (paths : List Path) → Except Failure Inventory
  | [] => .ok ⟨[], []⟩
  | path :: paths => do
    let first ← scanFile files path
    let rest ← scanFiles files paths
    return join first rest

/-- The results of several scans put together, or the first failure. -/
def gather : List (Except Failure Inventory) → Except Failure Inventory
  | [] => .ok ⟨[], []⟩
  | result :: results => do
    let first ← result
    let rest ← gather results
    return join first rest

/-- A scan of module files that is under way. -/
structure Scan where
  /-- The files that have not been read. -/
  left : List Path
  /-- What the others declare. -/
  found : Inventory

namespace Scan

/-- The scan of a list of files before any of them is read. -/
def ofPaths (paths : List Path) : Scan :=
  ⟨paths, ⟨[], []⟩⟩

/-- The next step of a scan, which reads one file. -/
def step (files : FileSystem) : Scan → Progress Scan (Except Failure Inventory)
  | ⟨[], found⟩ => .done (.ok found)
  | ⟨path :: left, found⟩ =>
    match scanFile files path with
    | .ok inventory => .going ⟨left, join found inventory⟩
    | .error failure => .done (.error failure)

/-- The work of scanning files. -/
def work (files : FileSystem) : Work Scan (Except Failure Inventory) where
  step := step files
  effort scan := scan.left.length
  effort_lt := by
    intro scan rest h
    rcases scan with ⟨_ | ⟨path, left⟩, found⟩
    · cases h
    · rw [step] at h
      split at h
      · cases h
        apply Nat.lt_succ_self
      · cases h

end Scan

/-- The ending of the names of module files. -/
def ending : String := ".tf"

/-- Whether a name ends like that of a module file. -/
def isModuleFile (name : String) : Bool :=
  ending.toList.isSuffixOf name.toList

namespace Module

/-- The directory of the caller. -/
def callerPath (module : Module) : Path :=
  module.path.child "caller"

/-- The path of a file that declares variables or outputs. -/
def itemFile (module : Module) (file : Path) : Path :=
  match module.scope with
  | .module => module.path ++ file
  | .caller => module.callerPath ++ file

/-- The files of the directory of a module. -/
def ownFiles (module : Module) (files : FileSystem) : Except Failure (List Path) :=
  match files.isDirectory module.path with
  | .error fault => .error (.refused fault)
  | .ok false => .ok []
  | .ok true =>
    let entries := (files.list module.path).filter fun (name, entry) =>
      entry.isFile && Path.suffixOf name == ending
    .ok (Path.sort (entries.map fun (name, _) => module.path.child name))

/-- The files that stand directly in a directory of modules. -/
def looseFiles (directory : Path) (entries : List (String × Entry)) : List Path :=
  Path.sort ((entries.filter fun (name, entry) => entry.isFile && isModuleFile name).map
    fun (name, _) => directory.child name)

/-- The files below each of the directories of a directory of modules. -/
def nestedFiles (directory : Path) (entries : List (String × Entry)) : List (List Path) :=
  let children := (entries.filter fun (_, entry) => entry.isDirectory).mergeSort
    fun a b => decide (a.1 ≤ b.1)
  children.map fun (name, entry) =>
    Path.sort (Entry.filesAt isModuleFile (directory.child name) entry)

/-- The lists of files that a workspace is read from. -/
def subtrees (module : Module) (files : FileSystem) : Except Failure (List (List Path)) :=
  let main := [module.callerPath.child "main.tf"]
  let directory := module.callerPath.child "modules"
  match files.isDirectory directory with
  | .error fault => .error (.refused fault)
  | .ok false => .ok [main]
  | .ok true =>
    let entries := files.list directory
    let loose := looseFiles directory entries
    .ok (main :: (if loose.isEmpty then [] else [loose]) ++ nestedFiles directory entries)

/-- What a workspace declares, when a pool of some size scans its lists of files and begins by the
moves of a schedule. -/
def scanCaller (module : Module) (files : FileSystem) (size : Workers) (schedule : List Pool.Move) :
    Except Failure Inventory := do
  let lists ← module.subtrees files
  gather (Pool.results (Scan.work files) size (lists.map Scan.ofPaths) schedule)

/-- What a module declares. -/
def scan (module : Module) (files : FileSystem) : Except Failure Inventory := do
  match module.scope with
  | .caller => module.scanCaller files Pool.defaultSize []
  | .module => scanFiles files (← module.ownFiles files)

/-- The items that the blocks of a type in a file declare. -/
def items (files : FileSystem) (path : Path) (type : String) : Audit (List String) := do
  match load files path with
  | .error failure => throw failure
  | .ok none => return []
  | .ok (some fields) =>
    let found ← Audit.ofExcept (declaredItems fields type)
    Audit.note (.blocksRead found.length type path.text)
    return found

/-- The resources and data sources that a module declares. -/
def inventory (module : Module) (files : FileSystem) : Audit Inventory := do
  let found ← Audit.ofExcept (module.scan files)
  Audit.note (.moduleRead found.resources.length found.dataSources.length module.path.text)
  return found

end Module

end ReadmeAudit.Terraform
