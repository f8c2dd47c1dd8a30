import ReadmeAudit.Files.Tree
import ReadmeAudit.Trace

/-!
# The check of the files

The README, the files that every module has, and those that the options ask for have to exist and
must not be empty.
-/

namespace ReadmeAudit.Check

open Files

/-- The files that every module has. -/
def moduleFiles : List String := ["outputs.tf", "variables.tf", "terraform.tf"]

/-- The paths that are checked. -/
def filePaths (readme module : Path) (additional : List String) : List Path :=
  readme :: moduleFiles.map (fun name => module ++ Path.ofText name)
    ++ additional.map (fun name => module ++ Path.ofText name)

/-- The check of one file. -/
def file (files : FileSystem) (path : Path) : Audit (Option Problem) := do
  match files.find path with
  | .error .zeroCharacter => throw .zeroCharacter
  | .error (.refused fault) =>
    return some (if fault.reason = .notFound then .missingFile path.name
      else .inaccessibleFile path.name fault)
  | .ok entry =>
    if entry.size = 0 then return some (.emptyFile path.name)
    Audit.note (.fileFine path.text entry.size)
    return none

/-- The check of several files. -/
def eachFile (files : FileSystem) : (paths : List Path) → Audit (List Problem)
  | [] => return []
  | path :: paths => do
    let problem ← file files path
    let others ← eachFile files paths
    return problem.toList ++ others

/-- The check of the files of a module. -/
def filePresence (files : FileSystem) (readme module : Path) (additional : List String) :
    Audit (List Problem) :=
  eachFile files (filePaths readme module additional)

end ReadmeAudit.Check
