import ReadmeAudit.CommandLine.Arguments
import ReadmeAudit.CommandLine.Help
import ReadmeAudit.Report
import ReadmeAudit.Subject

/-!
# The command line

`CommandLine.run` is the program as a function: it takes the world and the arguments, and gives what
is printed and the exit code. The code is 0 if the README is consistent with the module, 1 if there
are problems, and 2 if the arguments or the options are wrong. It is also 1 after a failure that is
not foreseen, which may come as late as with the report.

The output goes to no terminal, so that its width is not asked of one, and it has no colours.
-/

namespace ReadmeAudit.CommandLine

open Files

/-- What a command line asks for. -/
inductive Request where
  /-- The help text. -/
  | help
  /-- The version. -/
  | version
  /-- An audit. -/
  | audit (arguments : Arguments)

/-- The request of a list of arguments. The help text and the version come before any error in the
values of options. -/
def request (arguments : List String) : Except UsageError Request := do
  let found ← Arguments.read arguments
  let eager : Option Switch := (found.given.map (·.1)).find? fun option =>
    option = .help || option = .version
  match eager with
  | some .help => return .help
  | some _ => return .version
  | none =>
    match found.valueError? with
    | some error => throw error
    | none => if found.others.isEmpty then return .audit found else throw (.leftOver found.others)

/-! ### Settings -/

/-- The setting of a value that may be missing. -/
def textSetting : Option String → Setting
  | some text => .text text
  | none => .null

/-- The setting of a list, for which an empty one does not count. -/
def listSetting (texts : List String) : Setting :=
  if texts.isEmpty then .null else .list (texts.map .text)

/-- The setting of an option that is given or not. -/
def truthSetting (given : Bool) : Setting :=
  if given then .truth true else .null

/-- The settings that arguments give. -/
def settings (arguments : Arguments) : List (String × Setting) :=
  [("readme_path", textSetting (arguments.value? .readme)),
    ("module_path", textSetting (arguments.value? .modulePath)),
    ("format", textSetting (arguments.value? .format)),
    ("provider_prefixes", listSetting (arguments.values .providerPrefix)),
    ("additional_sections", listSetting (arguments.values .section)),
    ("additional_files", listSetting (arguments.values .file)),
    ("scan_mode", textSetting (arguments.value? .scanMode)),
    ("verbose", truthSetting (arguments.has .verbose))]
    ++ CheckKind.all.map fun kind => (kind.optionName, truthSetting (arguments.has (.skip kind)))

/-! ### Output -/

/-- What a run leaves behind. -/
structure Output where
  /-- The exit code. -/
  code : Nat
  /-- What is printed as the result. -/
  out : String
  /-- What is printed about the run. -/
  err : String
  /-- The failure that ended the run, if it was not foreseen. -/
  failure : Option Failure
  /-- The requested addresses. -/
  requests : List String

/-- Lines as a text. -/
def unlines (lines : List String) : String :=
  String.join (lines.map (· ++ "\n"))

/-- The rank of a level. -/
def rank : Level → Nat
  | .debug => 0
  | .info => 1
  | .warning => 2

/-- The lowest level that is shown. -/
def threshold (verbose : Bool) : Level :=
  if verbose then .debug else .info

/-- The wording of the events of a level or above. -/
def log (lowest : Level) (events : List Event) : String :=
  unlines ((events.filter fun event => rank lowest ≤ rank event.level).map (·.message))

/-- The output for a failure. -/
def failed (failure : Failure) (err : String) (requests : List String) : Output :=
  match failure with
  | .options error => ⟨2, "", err ++ unlines ["Error: " ++ error.message], none, requests⟩
  | _ => ⟨1, "", err, some failure, requests⟩

/-- The width of the output if the environment does not tell. -/
def defaultWidth : Nat := 80

/-- The number that a variable of the environment gives. What has other characters than digits does
not count. -/
def numberIn? (world : World) (name : String) : Except Failure (Option Nat) :=
  let chars := (world.env name).toList
  if !chars.isEmpty && chars.all Text.isNumeral then
    ((Text.readNumber chars).map some).mapError .number
  else .ok none

/-- The width of the output. The environment may also give a height, which makes no difference
unless it cannot be read. -/
def outputWidth (world : World) : Except Failure Nat := do
  let columns ← numberIn? world "COLUMNS"
  let _ ← numberIn? world "LINES"
  return columns.getD defaultWidth

/-- The audit that arguments and options ask for, with its problems. -/
def audit (world : World) (failFast : Bool) (options : Options) :
    Audit (Subject × List Problem) := do
  let (subject, kinds) ← Subject.opening world options
  if failFast then return (subject, (← subject.firstProblem? world kinds).toList)
  else return (subject, ← subject.problems world kinds)

/-- The summary of a subject. -/
def summary (subject : Subject) : Summary :=
  ⟨subject.readmePath.text, subject.module.path.text, subject.readme.layout,
    subject.readme.detection⟩

/-- The report on a subject. -/
def report (world : World) (subject : Subject) (problems : List Problem) :
    Except Failure String := do
  Report.render (← outputWidth world) (summary subject) problems

/-- The output of an audit. -/
def perform (world : World) (arguments : Arguments) : Output :=
  let file := (arguments.value? .config).map Path.ofText
  let (result, before) := (Options.resolve world file (settings arguments)).outcome .empty
  let early := log (threshold (arguments.has .verbose)) before.history
  match result with
  | .error failure => failed failure early []
  | .ok options =>
    let (result, after) :=
      (audit world (arguments.has .failFast) options).outcome { before with events := [] }
    let err := early ++ log (threshold options.verbose) after.history
    match result with
    | .error failure => failed failure err after.requests
    | .ok (subject, problems) =>
      match report world subject problems with
      | .error failure => failed failure err after.requests
      | .ok out => ⟨if problems.isEmpty then 0 else 1, out, err, none, after.requests⟩

/-- The text for an error in the arguments. -/
def usageText (error : UsageError) : String :=
  unlines ((if error.hasHint then [usageLine, hintLine, ""] else [])
    ++ ["Error: " ++ error.message])

/-- The output of the program. -/
def run (world : World) (arguments : List String) : Output :=
  match request arguments with
  | .error error => ⟨2, "", usageText error, none, []⟩
  | .ok .help => ⟨0, unlines helpLines, "", none, []⟩
  | .ok .version => ⟨0, unlines [versionText], "", none, []⟩
  | .ok (.audit found) => perform world found

end ReadmeAudit.CommandLine
