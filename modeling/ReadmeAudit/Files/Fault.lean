import ReadmeAudit.Text.Quoted

/-!
# File faults

The reasons why the file system refuses an access, with the number and the wording of the system's
own report.
-/

namespace ReadmeAudit.Files

/-- A reason for refusing an access. -/
inductive Reason where
  /-- There is no such file or directory. -/
  | notFound
  /-- A file stands where a directory is needed. -/
  | notADirectory
  /-- A directory stands where a file is needed. -/
  | isADirectory
  /-- A name is too long. -/
  | nameTooLong
deriving Repr, DecidableEq

/-- A refused access to a path. -/
structure Fault where
  /-- The reason. -/
  reason : Reason
  /-- The path as the caller gave it. -/
  path : String
deriving Repr, DecidableEq

namespace Reason

/-- The number of a reason. -/
def code : Reason → Nat
  | notFound => 2
  | notADirectory => 20
  | isADirectory => 21
  | nameTooLong => 36

/-- The wording of a reason. -/
def text : Reason → String
  | notFound => "No such file or directory"
  | notADirectory => "Not a directory"
  | isADirectory => "Is a directory"
  | nameTooLong => "File name too long"

end Reason

/-- The system's report of a fault. -/
def Fault.message (fault : Fault) : String :=
  "[Errno " ++ toString fault.reason.code ++ "] " ++ fault.reason.text ++ ": "
    ++ Text.quoted fault.path

end ReadmeAudit.Files
