import Mathlib.Tactic.Use
import ReadmeAudit.Options.Resolution
import ReadmeAudit.Proofs.Audit
import ReadmeAudit.Proofs.Files.Path
import ReadmeAudit.Proofs.Options.Field
import ReadmeAudit.Proofs.Terraform.Module
import ReadmeAudit.Proofs.Toml.Names

/-!
# Where options come from

The options of a file, those given explicitly and the environment are applied one after the other,
each to what the one before has left. What comes out is described option by option by `Resolved`:
which of the sources decides an option depends on the option only, and not on the order in which a
source lists its settings.
-/

namespace ReadmeAudit

open Files Terraform Audit

namespace Options

variable {readme : Readme}

/-! ### The file of options -/

/-- The settings of the file that is given, or of the usual one if it is there. -/
def fileSettings (files : FileSystem) (file : Option Path) :
    Except Failure (List (String × Setting)) := do
  if ← (files.isThere (file.getD defaultFile)).mapError .refused then
    tableOf (← readFile files (file.getD defaultFile))
  else
    match file with
    | none => return []
    | some path => throw (.options (.missingFile path.text))

theorem isThere_ends (files : FileSystem) (path : Path) :
  Ends readme (isThere files path) ((files.isThere path).mapError .refused)
  := by
  rw [isThere]
  cases files.isThere path with
  | ok answer => apply Ends.pure
  | error fault => apply Ends.throw

theorem ofFile_ends (files : FileSystem) (path : Path) :
  Ends readme (ofFile files path) (readFile files path >>= tableOf >>= ofSettings)
  := by
  rw [bind_assoc]
  apply Ends.andThen (ofExcept_ends _)
  intro fields
  apply Ends.bind (note_ends _)
  apply ofExcept_ends

theorem load_ends (files : FileSystem) (file : Option Path) :
  Ends readme (load files file) (fileSettings files file >>= ofSettings)
  := by
  cases file with
  | none =>
      rw [load, fileSettings, bind_assoc]
      apply Ends.andThen (isThere_ends files defaultFile)
      intro there
      cases there with
      | true => apply ofFile_ends
      | false =>
          apply Ends.bind (note_ends _)
          apply Ends.pure
  | some path =>
      rw [load, fileSettings, bind_assoc]
      apply Ends.andThen (isThere_ends files path)
      intro there
      cases there with
      | true => apply ofFile_ends
      | false => apply Ends.throw

theorem readFile_unambiguous {files : FileSystem} {path : Path} {fields : Toml.Fields}
    (h : readFile files path = .ok fields) :
  Toml.Unambiguous (.table fields)
  := by
  rw [readFile] at h
  split at h
  · cases h
  · cases h
  · split at h
    · cases h
    · next text _ =>
      cases hparse : Toml.parse text with
      | error stop =>
          rw [hparse] at h
          cases h
      | ok found =>
          rw [hparse] at h
          cases h
          apply Toml.parse_unambiguous hparse

theorem tableOf_distinctNames {files : FileSystem} {path : Path}
    {settings : List (String × Setting)} (h : readFile files path >>= tableOf = .ok settings) :
  DistinctNames settings
  := by
  obtain ⟨fields, hread, htable⟩ := exists_of_bind_eq_ok h
  rw [tableOf] at htable
  split at htable
  · cases htable
    apply List.nodup_nil
  · next hlookup =>
    cases htable
    apply ((readFile_unambiguous hread).of_lookup hlookup).names_nodup
  · cases htable

/-- A file does not give an option twice. -/
theorem fileSettings_distinctNames {files : FileSystem} {file : Option Path}
    {settings : List (String × Setting)} (h : fileSettings files file = .ok settings) :
  DistinctNames settings
  := by
  unfold fileSettings at h
  obtain ⟨there, -, hsettings⟩ := exists_of_bind_eq_ok h
  cases there with
  | true => apply tableOf_distinctNames hsettings
  | false =>
      cases file with
      | none =>
          cases hsettings
          apply List.nodup_nil
      | some path => cases hsettings

/-! ### The environment -/

/-- The path that a variable of the environment gives, unless it is empty. -/
def pathIn? (world : World) (name : String) : Option Path :=
  if (world.env name).isEmpty then none else some (.ofText (world.env name))

theorem pathIn?_of_eq {world : World} {name : String} (h : world.env name = "") :
  pathIn? world name = none
  := by
  rw [pathIn?, h]
  rfl

theorem pathIn?_of_ne {world : World} {name : String} (h : world.env name ≠ "") :
  pathIn? world name = some (.ofText (world.env name))
  := by
  rw [pathIn?, if_neg]
  rwa [String.isEmpty_iff]

/-- The format that the environment gives, if any. A format that does not exist counts as the
automatic one. -/
def formatIn? (world : World) : Option Format :=
  if (world.env "FORMAT").isEmpty then none
  else some ((Format.ofName? (world.env "FORMAT")).getD .auto)

/-- The options with what the environment gives. -/
def inEnvironment (world : World) (options : Options) : Options :=
  { options with
    readme := options.readme.or (pathIn? world "README_PATH")
    module := (pathIn? world "MODULE_PATH").or options.module
    format := (formatIn? world).getD options.format
    verbose := options.verbose || world.env "VERBOSE" = "true" }

theorem completeReadme_ends (world : World) (options : Options) :
  Ends readme (completeReadme world options)
    (.ok { options with readme := options.readme.or (pathIn? world "README_PATH") })
  := by
  obtain ⟨path?⟩ := options
  cases path? with
  | some path => apply Ends.pure
  | none =>
      rw [completeReadme, pathIn?]
      cases (world.env "README_PATH").isEmpty with
      | true => apply Ends.pure
      | false =>
          rw [Option.isSome_none, Bool.false_or, if_neg Bool.false_ne_true]
          dsimp only
          split
          · apply Ends.bind (note_ends _)
            apply Ends.pure
          · apply Ends.pure

theorem replaceModule_eq (world : World) (options : Options) :
  replaceModule world options
    = { options with module := (pathIn? world "MODULE_PATH").or options.module }
  := by
  rw [replaceModule, pathIn?]
  cases (world.env "MODULE_PATH").isEmpty with
  | true => rfl
  | false => rfl

theorem replaceFormat_ends (world : World) (options : Options) :
  Ends readme (replaceFormat world options)
    (.ok { options with format := (formatIn? world).getD options.format })
  := by
  rw [replaceFormat, formatIn?]
  cases (world.env "FORMAT").isEmpty with
  | true => apply Ends.pure
  | false =>
      cases Format.ofName? (world.env "FORMAT") with
      | some format => apply Ends.pure
      | none =>
          apply Ends.bind (note_ends _)
          apply Ends.pure

theorem raiseVerbosity_eq (world : World) (options : Options) :
  raiseVerbosity world options
    = { options with verbose := options.verbose || world.env "VERBOSE" = "true" }
  := by
  rw [raiseVerbosity]
  split
  · next h => simp [h]
  · next h => simp [h]

theorem applyEnvironment_ends (world : World) (options : Options) :
  Ends readme (applyEnvironment world options) (.ok (inEnvironment world options))
  := by
  apply Ends.bind (completeReadme_ends world options)
  rw [replaceModule_eq]
  apply Ends.bind (replaceFormat_ends world _)
  rw [raiseVerbosity_eq]
  apply Ends.pure

/-! ### Absolute paths -/

/-- The absolute form of a path that may begin with the sign for the home directory. -/
def absolute (world : World) (path : Path) : Except Failure Path :=
  (expandHome world path).bind (makeAbsolute world)

/-- The options with the environment applied and both paths absolute. -/
def finalized (world : World) (options : Options) : Except Failure Options := do
  let options := inEnvironment world options
  match options.readme with
  | none => throw (.options .noReadme)
  | some path =>
    let readme ← absolute world path
    let module ← modulePath world options readme
    return { options with readme := some readme, module := some module }

theorem finalize_ends (world : World) (options : Options) :
  Ends readme (finalize world options) (finalized world options)
  := by
  apply Ends.bind (applyEnvironment_ends world options)
  rw [finalized]
  cases (inEnvironment world options).readme with
  | none => apply Ends.throw
  | some path =>
      apply Ends.andThen (ofExcept_ends _)
      intro absolute
      apply Ends.andThen (ofExcept_ends _)
      intro module
      apply Ends.bind (note_ends _)
      apply Ends.pure

theorem resolve_ends (world : World) (file : Option Path) (settings : List (String × Setting)) :
  Ends readme (resolve world file settings)
    (fileSettings world.files file >>= ofSettings >>= (overlay · settings) >>= finalized world)
  := by
  rw [bind_assoc]
  apply Ends.andThen (load_ends world.files file)
  intro options
  apply Ends.andThen (ofExcept_ends _)
  intro options
  apply finalize_ends

/-- Nothing else of the files matters than the working directory. -/
theorem finalized_congr {world other : World} (henvironment : other.environment = world.environment)
    (haccounts : other.accounts = world.accounts) (hcwd : other.files.cwd = world.files.cwd) :
  finalized other = finalized world
  := by
  obtain ⟨⟨root, cwd⟩, environment, accounts, respond⟩ := world
  obtain ⟨⟨root', cwd'⟩, environment', accounts', respond'⟩ := other
  obtain rfl : environment' = environment := henvironment
  obtain rfl : accounts' = accounts := haccounts
  obtain rfl : cwd' = cwd := hcwd
  rfl

/-! ### Precedence -/

/-- Where the README comes from. -/
inductive ReadmeFrom (world : World) (given : Option Path) : Path → Prop where
  /-- It is that of the options. -/
  | options {path readme : Path} (hgiven : given = some path)
      (habsolute : absolute world path = .ok readme) : ReadmeFrom world given readme
  /-- The options give none, and it is that of the environment. -/
  | environment {readme : Path} (hgiven : given = none) (henv : world.env "README_PATH" ≠ "")
      (habsolute : absolute world (.ofText (world.env "README_PATH")) = .ok readme) :
      ReadmeFrom world given readme

/-- Where the module comes from. -/
inductive ModuleFrom (world : World) (given : Option Path) (scope : Scope) (readme : Path) :
    Path → Prop where
  /-- It is that of the environment. -/
  | environment {module : Path} (henv : world.env "MODULE_PATH" ≠ "")
      (habsolute : absolute world (.ofText (world.env "MODULE_PATH")) = .ok module) :
      ModuleFrom world given scope readme module
  /-- The environment gives none, and it is that of the options. -/
  | options {path module : Path} (henv : world.env "MODULE_PATH" = "") (hgiven : given = some path)
      (habsolute : absolute world path = .ok module) : ModuleFrom world given scope readme module
  /-- Neither gives one, and it is the workspace of the caller. -/
  | workspace {module : Path} (henv : world.env "MODULE_PATH" = "") (hgiven : given = none)
      (hscope : scope = .caller) (hworkspace : world.env "GITHUB_WORKSPACE" ≠ "")
      (habsolute : makeAbsolute world (.ofText (world.env "GITHUB_WORKSPACE")) = .ok module) :
      ModuleFrom world given scope readme module
  /-- There is no such workspace either, and it is the directory of the README. -/
  | directory (henv : world.env "MODULE_PATH" = "") (hgiven : given = none)
      (hworkspace : scope = .caller → world.env "GITHUB_WORKSPACE" = "") :
      ModuleFrom world given scope readme readme.parent

/-- Options are resolved from the values that the file and the explicit settings give, and from the
environment. -/
structure Resolved (world : World) (values : (field : Field) → field.Value) (options : Options) :
    Prop where
  /-- The scope is that of the settings. -/
  scope_eq : options.scope = values .scope
  /-- The beginnings of names are those of the settings. -/
  prefixes_eq : options.prefixes = values .prefixes
  /-- The additional sections are those of the settings. -/
  sections_eq : options.sections = values .sections
  /-- The additional files are those of the settings. -/
  files_eq : options.files = values .files
  /-- The checks that are left out are those of the settings. -/
  skips_eq : ∀ kind, options.skips.get kind = values (.skip kind)
  /-- All events are shown if the settings or the environment say so. -/
  verbose_iff : options.verbose = true ↔ values .verbose = true ∨ world.env "VERBOSE" = "true"
  /-- The format is that of the environment, if it gives one. -/
  format_eq : options.format
    = if world.env "FORMAT" = "" then values .format
      else (Format.ofName? (world.env "FORMAT")).getD .auto
  /-- Both paths are determined, and they are absolute. -/
  paths_eq : ∃ readme module, options.readme = some readme ∧ readme.IsNormal
    ∧ ReadmeFrom world (values .readme) readme ∧ options.module = some module ∧ module.IsNormal
    ∧ ModuleFrom world (values .module) options.scope readme module

theorem makeAbsolute_isNormal {world : World} {path result : Path}
    (h : makeAbsolute world path = .ok result) :
  result.IsNormal
  := by
  rw [makeAbsolute] at h
  split at h
  · cases h
  · obtain rfl := Except.ok.inj h
    apply Path.resolve_isNormal

theorem absolute_isNormal {world : World} {path result : Path}
    (h : absolute world path = .ok result) :
  result.IsNormal
  := by
  obtain ⟨expanded, -, hexpanded⟩ := exists_of_bind_eq_ok h
  apply makeAbsolute_isNormal hexpanded

theorem ReadmeFrom.of_absolute {world : World} {options : Options} {path readme : Path}
    (hpath : (inEnvironment world options).readme = some path)
    (habsolute : absolute world path = .ok readme) :
  ReadmeFrom world options.readme readme
  := by
  rw [inEnvironment] at hpath
  cases hgiven : options.readme with
  | some given =>
      rw [hgiven] at hpath
      cases hpath
      apply ReadmeFrom.options rfl habsolute
  | none =>
      rw [hgiven, Option.none_or] at hpath
      by_cases henv : world.env "README_PATH" = ""
      · rw [pathIn?_of_eq henv] at hpath
        cases hpath
      · rw [pathIn?_of_ne henv] at hpath
        cases hpath
        apply ReadmeFrom.environment rfl henv habsolute

theorem ModuleFrom.of_modulePath {world : World} {options : Options} {readme module : Path}
    (h : modulePath world (inEnvironment world options) readme = .ok module) :
  ModuleFrom world options.module options.scope readme module
  := by
  rw [inEnvironment, modulePath] at h
  by_cases henv : world.env "MODULE_PATH" = ""
  · rw [pathIn?_of_eq henv, Option.none_or] at h
    cases hgiven : options.module with
    | some path =>
        rw [hgiven] at h
        apply ModuleFrom.options henv rfl h
    | none =>
        rw [hgiven] at h
        dsimp only at h
        split at h
        · next hworkspace =>
          simp only [Bool.and_eq_true, decide_eq_true_eq, Bool.not_eq_true',
            String.isEmpty_eq_false_iff] at hworkspace
          apply ModuleFrom.workspace henv rfl hworkspace.1 hworkspace.2 h
        · next hworkspace =>
          obtain rfl := Except.ok.inj h
          apply ModuleFrom.directory henv rfl
          intro hscope
          simpa [hscope] using hworkspace
  · rw [pathIn?_of_ne henv, Option.some_or] at h
    apply ModuleFrom.environment henv h

theorem ModuleFrom.isNormal {world : World} {given : Option Path} {scope : Scope}
    {readme module : Path} (h : ModuleFrom world given scope readme module)
    (hreadme : readme.IsNormal) :
  module.IsNormal
  := by
  cases h with
  | environment _ habsolute => apply absolute_isNormal habsolute
  | options _ _ habsolute => apply absolute_isNormal habsolute
  | workspace _ _ _ _ habsolute => apply makeAbsolute_isNormal habsolute
  | directory => apply hreadme.parent

theorem exists_of_finalized_eq_ok {world : World} {options final : Options}
    (h : finalized world options = .ok final) :
  ∃ path readme module, (inEnvironment world options).readme = some path
    ∧ absolute world path = .ok readme
    ∧ modulePath world (inEnvironment world options) readme = .ok module
    ∧ final = { inEnvironment world options with readme := some readme, module := some module }
  := by
  rw [finalized] at h
  cases hpath : (inEnvironment world options).readme with
  | none =>
      rw [hpath] at h
      cases h
  | some path =>
      rw [hpath] at h
      obtain ⟨readme, hreadme, h⟩ := exists_of_bind_eq_ok h
      obtain ⟨module, hmodule, h⟩ := exists_of_bind_eq_ok h
      use path, readme, module, rfl, hreadme, hmodule, (Except.ok.inj h).symm

/-- Options that are final are resolved from what they were before. -/
theorem Resolved.of_finalized {world : World} {base options : Options}
    (h : finalized world base = .ok options) :
  Resolved world (fun field => field.get base) options
  := by
  obtain ⟨path, readme, module, hpath, hreadme, hmodule, rfl⟩ := exists_of_finalized_eq_ok h
  have hnormal := absolute_isNormal hreadme
  have hfrom := ModuleFrom.of_modulePath hmodule
  constructor
  case paths_eq =>
    use readme, module, rfl, hnormal, ReadmeFrom.of_absolute hpath hreadme, rfl,
      hfrom.isNormal hnormal, hfrom
  case verbose_iff => simp [inEnvironment, Field.get]
  case format_eq =>
    by_cases henv : world.env "FORMAT" = ""
    · simp [inEnvironment, formatIn?, Field.get, henv]
    · simp [inEnvironment, formatIn?, henv]
  case skips_eq =>
    intro kind
    rfl
  all_goals rfl

/-! ### Several sources -/

/-- The value of an option that is coerced from the explicit setting, or else from that of the file,
or else is the default. -/
def Field.layered (file explicit : List (String × Setting)) (field : Field) :
    Except Failure field.Value :=
  field.chosen (field.get {}) ((given? explicit field.name).or (given? file field.name))

theorem layered_eq_ok {file explicit : List (String × Setting)} {options base : Options}
    (hfile : DistinctNames file) (hexplicit : DistinctNames explicit)
    (hoptions : ofSettings file = .ok options) (hbase : options.overlay explicit = .ok base)
    (field : Field) :
  field.layered file explicit = .ok (field.get base)
  := by
  have hfirst := ((overlay_eq_ok_iff hfile).mp hoptions).2 field
  have hsecond := ((overlay_eq_ok_iff hexplicit).mp hbase).2 field
  rw [Field.layered]
  cases hgiven : given? explicit field.name with
  | some value =>
      rw [hgiven] at hsecond
      apply hsecond
  | none =>
      rw [hgiven] at hsecond
      rw [Option.none_or, hfirst]
      apply hsecond

@[simp]
theorem resolve_result (world : World) (file : Option Path) (explicit : List (String × Setting)) :
  (resolve world file explicit).result
    = (fileSettings world.files file >>= ofSettings >>= (overlay · explicit) >>= finalized world)
  := by
  have hends : Ends (.read "" .auto []) (resolve world file explicit) _ :=
    resolve_ends world file explicit
  apply hends.result_eq

/-- The file gives settings if the options are resolved. -/
theorem exists_fileSettings_of_resolve {world : World} {file : Option Path}
    {explicit : List (String × Setting)} {options : Options}
    (h : (resolve world file explicit).result = .ok options) :
  ∃ inFile, fileSettings world.files file = .ok inFile
  := by
  rw [resolve_result] at h
  obtain ⟨base, hbase, -⟩ := exists_of_bind_eq_ok h
  obtain ⟨fromFile, hfromFile, -⟩ := exists_of_bind_eq_ok hbase
  obtain ⟨inFile, hfile, -⟩ := exists_of_bind_eq_ok hfromFile
  use inFile, hfile

/-- The options that are resolved are those of the explicit settings, or else of the file, or else
the defaults, and of the environment, in the way that is described by `Resolved`. They are the same
for the same settings in another order, in the file or explicitly. -/
theorem resolve_precedence {world : World} {file : Option Path}
    {inFile explicit : List (String × Setting)} {options : Options}
    (hfile : fileSettings world.files file = .ok inFile) (hexplicit : DistinctNames explicit)
    (h : (resolve world file explicit).result = .ok options) :
  (∃ values : (field : Field) → field.Value,
    (∀ field : Field, field.layered inFile explicit = .ok (values field))
      ∧ Resolved world values options)
    ∧ ∀ (world' : World) (file' : Option Path) (inFile' explicit' : List (String × Setting)),
      world'.environment = world.environment → world'.accounts = world.accounts →
      world'.files.cwd = world.files.cwd →
      fileSettings world'.files file' = .ok inFile' → inFile.Perm inFile' →
      explicit.Perm explicit' →
        (resolve world' file' explicit').result = .ok options
  := by
  have hdistinct := fileSettings_distinctNames hfile
  rw [resolve_result, hfile] at h
  obtain ⟨base, hbase, hfinal⟩ := exists_of_bind_eq_ok h
  obtain ⟨fromFile, hfromFile, hbase⟩ := exists_of_bind_eq_ok hbase
  constructor
  · use fun field => field.get base
    constructor
    · apply layered_eq_ok hdistinct hexplicit hfromFile hbase
    · apply Resolved.of_finalized hfinal
  · intro world' file' inFile' explicit' henvironment haccounts hcwd hfile' hinFile hperm
    have hfromFile' : ofSettings inFile' = .ok fromFile := overlay_perm hinFile hdistinct hfromFile
    have hbase' : fromFile.overlay explicit' = .ok base := overlay_perm hperm hexplicit hbase
    calc (resolve world' file' explicit').result
      _ = (ofSettings inFile' >>= (overlay · explicit') >>= finalized world') := by
        rw [resolve_result, hfile']
        rfl
      _ = finalized world' base := by
        rw [hfromFile']
        change (fromFile.overlay explicit' >>= finalized world') = _
        rw [hbase']
        rfl
      _ = .ok options := by rw [finalized_congr henvironment haccounts hcwd, hfinal]

/-- A file of options in a directory, an environment with a format that does not exist, and an
account. -/
def layeredWorld : World :=
  ⟨.holding ".readme-validator.toml"
      "[readme_validator]\nscan_mode = \"caller\"\nformat = \"table\"\nskip_urls = true\n",
    [("README_PATH", "~guest/docs/README.md"), ("FORMAT", "tabular"), ("GITHUB_WORKSPACE", "calls"),
      ("VERBOSE", "true")],
    ⟨none, fun user => List.lookup user [("guest", "/home/guest/")]⟩, fun _ => .status 200⟩

/-- Explicit settings for some of the options. -/
def layeredSettings : List (String × Setting) :=
  [("module_path", .null), ("skip_urls", .truth false),
    ("additional_files", .list [.text "LICENSE"])]

/-- What they are resolved to. -/
def layeredOptions : Options :=
  ⟨some (.ofText "/home/guest/docs/README.md"), some (.ofText "/calls"), .auto, [], [], ["LICENSE"],
    .caller, true, {}⟩

theorem resolve_layered :
  DistinctNames layeredSettings
    ∧ (resolve layeredWorld none layeredSettings).result = .ok layeredOptions
    ∧ (resolve layeredWorld none layeredSettings.reverse).result = .ok layeredOptions
  := by
  have hdistinct : DistinctNames layeredSettings := by decide
  have hresult : (resolve layeredWorld none layeredSettings).result = .ok layeredOptions := by
    decide +kernel
  obtain ⟨inFile, hfile⟩ := exists_fileSettings_of_resolve hresult
  obtain ⟨-, hperm⟩ := resolve_precedence hfile hdistinct hresult
  use hdistinct, hresult
  apply hperm layeredWorld none inFile _ rfl rfl rfl hfile (List.Perm.refl _)
  apply (List.reverse_perm _).symm

end Options

end ReadmeAudit
