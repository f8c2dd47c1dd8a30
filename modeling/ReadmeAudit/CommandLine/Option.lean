import ReadmeAudit.Options
import ReadmeAudit.Terraform.Module

/-!
# Options of the command line

The options that the command line knows, with their names and with what they take: a value, which
may be one of several choices, or nothing.
-/

namespace ReadmeAudit.CommandLine

open Terraform

/-- An option of the command line. -/
inductive Switch where
  /-- The README. -/
  | readme
  /-- The module. -/
  | modulePath
  /-- The layout. -/
  | format
  /-- A beginning of the names of resources. -/
  | providerPrefix
  /-- An additional section. -/
  | «section»
  /-- An additional file. -/
  | file
  /-- Which files declare resources. -/
  | scanMode
  /-- The file of options. -/
  | config
  /-- Leaving out a check. -/
  | skip (kind : CheckKind)
  /-- Stopping at the first problem. -/
  | failFast
  /-- Showing all events. -/
  | verbose
  /-- Showing the version. -/
  | version
  /-- Showing a help text. -/
  | help
deriving Repr, DecidableEq

namespace Switch

/-- The options in the order of the help text. -/
def all : List Switch :=
  [readme, modulePath, format, providerPrefix, «section», file, scanMode, config]
    ++ CheckKind.all.map skip ++ [failFast, verbose, version, help]

/-- The long name of an option. -/
def name : Switch → String
  | readme => "--readme"
  | modulePath => "--module-path"
  | format => "--format"
  | providerPrefix => "--provider-prefix"
  | «section» => "--section"
  | file => "--file"
  | scanMode => "--scan-mode"
  | config => "--config"
  | skip kind => "--skip-" ++ kind.name
  | failFast => "--fail-fast"
  | verbose => "--verbose"
  | version => "--version"
  | help => "--help"

/-- The option of a long name. -/
def ofName? (name : String) : Option Switch :=
  all.find? (·.name == name)

/-- The option of a short name, which is a single letter. -/
def ofLetter? (letter : Char) : Option Switch :=
  if letter = 'v' then some verbose else none

/-- Whether an option takes a value. -/
def takesValue : Switch → Bool
  | readme | modulePath | format | providerPrefix | «section» | file | scanMode | config => true
  | _ => false

/-- The values that an option can take, if not every text. -/
def choices? : Switch → Option (List String)
  | format => some (Format.all.map (·.name))
  | scanMode => some (Scope.all.map (·.name))
  | _ => none

end Switch

end ReadmeAudit.CommandLine
