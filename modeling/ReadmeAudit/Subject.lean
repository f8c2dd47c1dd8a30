import ReadmeAudit.Check.Addresses
import ReadmeAudit.Check.FilePresence
import ReadmeAudit.Check.Items
import ReadmeAudit.Check.Sections
import ReadmeAudit.Options.Resolution

/-!
# Audits

The `Subject` of an audit is a README with the module that it documents. An audit of it runs a list
of checks in order: `Subject.problems` reports everything that they find, and
`Subject.firstProblem?` stops at the first problem.
-/

namespace ReadmeAudit

open Files Terraform

/-- What is audited. -/
structure Subject where
  /-- The options. -/
  options : Options
  /-- The path of the README. -/
  readmePath : Path
  /-- The README. -/
  readme : Readme
  /-- The module. -/
  module : Module

namespace Subject

/-! ### Preparation -/

/-- The options with both paths, which are resolved if one of them is not given. -/
def resolved (world : World) (options : Options) : Audit (Options × Path × Path) := do
  match options.readme, options.module with
  | some readme, some module => return (options, readme, module)
  | _, _ =>
    let options ← options.finalize world
    match options.readme, options.module with
    | some readme, some module => return (options, readme, module)
    | _, _ => throw (.options .noReadme)

/-- The text of a README. -/
def readText (files : FileSystem) (path : Path) : Except Failure String :=
  match files.read path with
  | .error .zeroCharacter => .error .zeroCharacter
  | .error (.refused fault) => .error (.options (.unreadableReadme fault))
  | .ok content =>
    match textOf? content with
    | some text => .ok text
    | none => .error .notText

/-- The README of a text, with notes of what it is like. -/
def readReadme (text : String) (options : Options) : Audit Readme := do
  let readme := Readme.read text options.format options.prefixes
  if let some detection := readme.detection then Audit.note (.layoutDetected detection)
  Audit.note (.readmeRead readme.sections.length readme.anchorCount readme.layout)
  return readme

/-- The subject that options describe. -/
def prepare (world : World) (options : Options) : Audit Subject := do
  let (options, readmePath, modulePath) ← resolved world options
  let text ← Audit.ofExcept (readText world.files readmePath)
  let readme ← readReadme text options
  return ⟨options, readmePath, readme, ⟨modulePath, options.scope⟩⟩

/-- The checks that options do not leave out, in the order in which they report, with a note of each
that they do. -/
def chosen (options : Options) : (kinds : List CheckKind) → Audit (List CheckKind)
  | [] => return []
  | kind :: kinds => do
    if options.skips.get kind then
      Audit.note (.checkSkipped kind.name)
      chosen options kinds
    else return kind :: (← chosen options kinds)

/-- Note that an audit with some checks begins. -/
def begin (subject : Subject) (kinds : List CheckKind) : Audit Unit :=
  Audit.note (.auditBegun subject.readmePath.text subject.module.path.text subject.readme.layout
    kinds.length)

/-- The subject that options describe, with the checks that are to be run. -/
def opening (world : World) (options : Options) : Audit (Subject × List CheckKind) := do
  let subject ← prepare world options
  let kinds ← chosen subject.options CheckKind.all
  subject.begin kinds
  return (subject, kinds)

/-! ### Checks -/

/-- A check of a subject. -/
def check (subject : Subject) (world : World) : CheckKind → Audit (List Problem)
  | .sections => Check.sections subject.readme subject.options.sections
  | .files =>
    Check.filePresence world.files subject.readmePath subject.module.path subject.options.files
  | .urls => Check.addresses subject.readme world.respond
  | .resources => Check.resources subject.readme subject.module world.files
  | .inputs =>
    Check.items subject.readme subject.module world.files (.inputs subject.readme.layout)
  | .outputs => Check.items subject.readme subject.module world.files .outputs

/-- The problems that checks find, in the order of the checks. -/
def problems (subject : Subject) (world : World) : (kinds : List CheckKind) → Audit (List Problem)
  | [] => return []
  | kind :: kinds => do
    let found ← subject.check world kind
    Audit.note (.checkDone kind.name found.length)
    let others ← subject.problems world kinds
    return found ++ others

/-- The first problem that checks find. The checks after the one that finds it are not run. -/
def firstProblem? (subject : Subject) (world : World) :
    (kinds : List CheckKind) → Audit (Option Problem)
  | [] => return none
  | kind :: kinds => do
    match ← subject.check world kind with
    | problem :: _ => return some problem
    | [] => subject.firstProblem? world kinds

end Subject

end ReadmeAudit
