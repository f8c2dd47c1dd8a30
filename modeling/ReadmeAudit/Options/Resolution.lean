import ReadmeAudit.Options
import ReadmeAudit.Toml.Reader
import ReadmeAudit.Trace
import ReadmeAudit.Url

/-!
# The resolution of options

The options of an audit come from several sources. Those of a file come first, those given
explicitly replace them, and some are completed or replaced by the environment. At the end the paths
of the README and of the module are absolute. A path may begin with the sign for a home directory,
which is that of the environment or that of an account of the system.

The environment and the accounts are those of the process throughout. Names of users and values of
variables are texts: bytes that encode no text do not occur in them.
-/

namespace ReadmeAudit

open Files Terraform

/-- The home directories that the system knows. -/
structure Accounts where
  /-- That of the user who runs the audit. -/
  own : Option String := none
  /-- Those of users by their names. -/
  named : String → Option String := fun _ => none

/-- What surrounds an audit. -/
structure World where
  /-- The files. -/
  files : FileSystem
  /-- The variables of the environment. -/
  environment : List (String × String)
  /-- The accounts of the system. -/
  accounts : Accounts
  /-- The answers to requests. -/
  respond : String → Url.Response

namespace World

/-- The value of a variable of the environment, if it is set. -/
def env? (world : World) (name : String) : Option String :=
  world.environment.lookup name

/-- The value of a variable of the environment, which is empty if it is not set. -/
def env (world : World) (name : String) : String :=
  (world.env? name).getD ""

end World

namespace Options

/-! ### The file of options -/

/-- The name of the file of options that is used if none is given. -/
def defaultFile : Path := .ofText ".readme-validator.toml"

/-- The name of the table that holds the options. -/
def tableName : String := "readme_validator"

/-- The fields of the table of options in the fields of a file. -/
def tableOf (fields : Toml.Fields) : Except Failure (List (String × Setting)) :=
  match fields.lookup tableName with
  | none => .ok []
  | some (.table settings) => .ok settings
  | some _ => .error .notATable

/-- The failure of a file of options that cannot be read to its end. -/
def ofStop : Text.Stop → Failure
  | .mismatch => .options .malformedFile
  | .number error => .number error
  | .tooDeep => .tooDeep

/-- The fields of a file of options. -/
def readFile (files : FileSystem) (path : Path) : Except Failure Toml.Fields :=
  match files.read path with
  | .error .zeroCharacter => .error .zeroCharacter
  | .error (.refused fault) => .error (.options (.unreadableFile fault))
  | .ok content =>
    match String.fromUTF8? content with
    | none => .error .notText
    | some text => (Toml.parse text).mapError ofStop

/-- Whether a file is there. -/
def isThere (files : FileSystem) (path : Path) : Audit Bool :=
  match files.isThere path with
  | .ok answer => return answer
  | .error fault => throw (.refused fault)

/-- The options of a file that is there. -/
def ofFile (files : FileSystem) (path : Path) : Audit Options := do
  let fields ← Audit.ofExcept (readFile files path)
  Audit.note (.optionsRead path.text)
  Audit.ofExcept do ofSettings (← tableOf fields)

/-- The options of the file that is given, or of the usual one if it is there. -/
def load (files : FileSystem) (file : Option Path) : Audit Options := do
  match file with
  | none =>
    if ← isThere files defaultFile then ofFile files defaultFile
    else
      Audit.note .optionsDefaulted
      return {}
  | some path =>
    if ← isThere files path then ofFile files path
    else throw (.options (.missingFile path.text))

/-! ### The environment -/

/-- The README that the environment gives, if the options give none. -/
def completeReadme (world : World) (options : Options) : Audit Options := do
  let given := world.env "README_PATH"
  if options.readme.isSome || given.isEmpty then return options
  let path := Path.ofText given
  if world.env "VERBOSE" = "true" then Audit.note (.readmeGiven path.text)
  return { options with readme := some path }

/-- The module that the environment gives in place of that of the options. -/
def replaceModule (world : World) (options : Options) : Options :=
  let given := world.env "MODULE_PATH"
  if given.isEmpty then options else { options with module := some (.ofText given) }

/-- The format that the environment gives in place of that of the options. -/
def replaceFormat (world : World) (options : Options) : Audit Options := do
  let given := world.env "FORMAT"
  if given.isEmpty then return options
  match Format.ofName? given with
  | some format => return { options with format := format }
  | none =>
    Audit.note (.formatIgnored given)
    return { options with format := .auto }

/-- The options with all events shown if the environment says so. -/
def raiseVerbosity (world : World) (options : Options) : Options :=
  if world.env "VERBOSE" = "true" then { options with verbose := true } else options

/-- The options with what the environment gives. -/
def applyEnvironment (world : World) (options : Options) : Audit Options := do
  let options ← completeReadme world options
  let options ← replaceFormat world (replaceModule world options)
  return raiseVerbosity world options

/-! ### Absolute paths -/

/-- The home directory of a user, or of the one who runs the audit if the name is empty. That of the
latter is the one in the environment, even if it is empty there. -/
def home? (world : World) (user : String) : Except Failure (Option String) :=
  if user.isEmpty then .ok ((world.env? "HOME").or world.accounts.own)
  else if user.toList.contains (Char.ofNat 0) then .error .zeroCharacter
  else .ok (world.accounts.named user)

/-- A directory without the slashes at its end. If nothing else is left, it is the root. -/
def dropSlashes (directory : String) : String :=
  let text := String.ofList (Text.dropRightWhile (· == '/') directory.toList)
  if text.isEmpty then "/" else text

/-- The path below a home directory. -/
def belowHome (directory : String) (names : List String) : Except Failure Path :=
  let directory := dropSlashes directory
  if Text.startsWith "~" directory then .error .unknownHome
  else
    let start := Path.ofText directory
    .ok ⟨start.root, start.names ++ names⟩

/-- The path with a home directory in place of the sign for it, which may be followed by the name of
a user. -/
def expandHome (world : World) (path : Path) : Except Failure Path :=
  match path.root, path.names with
  | .none, first :: rest =>
    if Text.startsWith "~" first then do
      match ← home? world (Text.dropLead "~" first) with
      | some directory => belowHome directory rest
      | none => throw .unknownHome
    else .ok path
  | _, _ => .ok path

/-- The absolute form of a path. -/
def makeAbsolute (world : World) (path : Path) : Except Failure Path :=
  if path.text.toList.contains (Char.ofNat 0) then .error .zeroCharacter
  else .ok (path.resolve world.files.cwd)

/-- The module of options whose README is absolute. -/
def modulePath (world : World) (options : Options) (readme : Path) : Except Failure Path :=
  match options.module with
  | some path => (expandHome world path).bind (makeAbsolute world)
  | none =>
    let workspace := world.env "GITHUB_WORKSPACE"
    if options.scope = .caller && !workspace.isEmpty then
      makeAbsolute world (.ofText workspace)
    else .ok readme.parent

/-- The options with the environment applied and both paths absolute. -/
def finalize (world : World) (options : Options) : Audit Options := do
  let options ← applyEnvironment world options
  match options.readme with
  | none => throw (.options .noReadme)
  | some path =>
    let readme ← Audit.ofExcept ((expandHome world path).bind (makeAbsolute world))
    let module ← Audit.ofExcept (modulePath world options readme)
    Audit.note (.optionsResolved readme.text module.text options.format.name options.scope.name)
    return { options with readme := some readme, module := some module }

/-- The options from a file, explicit settings and the environment. -/
def resolve (world : World) (file : Option Path) (settings : List (String × Setting)) :
    Audit Options := do
  let options ← load world.files file
  let options ← Audit.ofExcept (options.overlay settings)
  options.finalize world

end Options

end ReadmeAudit
