import ReadmeAudit.Proofs.Options.Resolution

/-!
# Options that are final

Wherever the paths of the README and of the module come from, they are settled when the options are
final. Options that are final stay as they are if they are made final once more in the same
environment and working directory, because a settled path is its own absolute form, and what the
environment replaces it has replaced already.
-/

namespace ReadmeAudit.Options

open Files Terraform Audit

variable {world : World} {path result : Path}

/-! ### Settled paths -/

theorem belowHome_isProper {directory : String} {names : List String}
    (hnames : Path.IsProper ⟨.none, names⟩) (h : belowHome directory names = .ok result) :
  result.IsProper
  := by
  rw [belowHome] at h
  split at h
  · cases h
  · obtain rfl := Except.ok.inj h
    intro name hname
    rcases List.mem_append.mp hname with hname | hname
    · apply Path.ofText_isProper _ name hname
    · apply hnames name hname

theorem expandHome_isProper (hpath : path.IsProper) (h : expandHome world path = .ok result) :
  result.IsProper
  := by
  rw [expandHome] at h
  split at h
  · next first rest hroot hnames =>
    split at h
    · obtain ⟨found, -, h⟩ := exists_of_bind_eq_ok h
      cases found with
      | none => cases h
      | some directory =>
          apply belowHome_isProper _ h
          intro name hname
          apply hpath name
          rw [hnames]
          apply List.mem_cons_of_mem first hname
    · obtain rfl := Except.ok.inj h
      apply hpath
  · obtain rfl := Except.ok.inj h
    apply hpath

theorem makeAbsolute_isSettled (hcwd : world.files.cwd.IsSettled) (hpath : path.IsProper)
    (h : makeAbsolute world path = .ok result) :
  result.IsSettled
  := by
  rw [makeAbsolute] at h
  split at h
  · cases h
  · next hzero =>
    obtain rfl := Except.ok.inj h
    apply hpath.resolve_isSettled hcwd hzero

theorem absolute_isSettled (hcwd : world.files.cwd.IsSettled) (hpath : path.IsProper)
    (h : absolute world path = .ok result) :
  result.IsSettled
  := by
  obtain ⟨expanded, hexpanded, h⟩ := exists_of_bind_eq_ok h
  apply makeAbsolute_isSettled hcwd (expandHome_isProper hpath hexpanded) h

/-- A settled path is its own absolute form. -/
theorem absolute_eq_of_isSettled (h : path.IsSettled) :
  absolute world path = .ok path
  := by
  have hzero : ¬ path.text.toList.contains (Char.ofNat 0) = true := by
    rw [Path.contains_zero_iff]
    rintro ⟨name, hname, hmem⟩
    apply h.no_zero name hname hmem
  have hexpanded : expandHome world path = .ok path := by
    rw [expandHome, h.root_eq]
  rw [absolute, hexpanded]
  change makeAbsolute world path = _
  rw [makeAbsolute, if_neg hzero, h.toIsNormal.resolve_eq]

/-- The README is settled, wherever it comes from. -/
theorem ReadmeFrom.isSettled {given : Option Path} {readme : Path}
    (h : ReadmeFrom world given readme) (hcwd : world.files.cwd.IsSettled)
    (hgiven : ∀ path ∈ given, path.IsProper) :
  readme.IsSettled
  := by
  cases h with
  | options heq habsolute => apply absolute_isSettled hcwd (hgiven _ heq) habsolute
  | environment _ _ habsolute =>
      apply absolute_isSettled hcwd (Path.ofText_isProper _) habsolute

/-- The module is settled, wherever it comes from. -/
theorem ModuleFrom.isSettled {given : Option Path} {scope : Scope} {readme module : Path}
    (h : ModuleFrom world given scope readme module) (hcwd : world.files.cwd.IsSettled)
    (hgiven : ∀ path ∈ given, path.IsProper) (hreadme : readme.IsSettled) :
  module.IsSettled
  := by
  cases h with
  | environment _ habsolute => apply absolute_isSettled hcwd (Path.ofText_isProper _) habsolute
  | options _ heq habsolute => apply absolute_isSettled hcwd (hgiven _ heq) habsolute
  | workspace _ _ _ _ habsolute =>
      apply makeAbsolute_isSettled hcwd (Path.ofText_isProper _) habsolute
  | directory => apply hreadme.parent

/-! ### Making options final -/

@[simp]
theorem finalize_result (world : World) (options : Options) :
  (finalize world options).result = finalized world options
  := by
  have hends : Ends (.read "" .auto []) (finalize world options) _ := finalize_ends world options
  apply hends.result_eq

/-- What the environment gives is already there in options that are final, except that it gives the
module again. -/
theorem inEnvironment_inEnvironment (options : Options) (readme module : Path) :
  inEnvironment world
      { inEnvironment world options with readme := some readme, module := some module }
    = { inEnvironment world options with
        readme := some readme
        module := (pathIn? world "MODULE_PATH").or (some module) }
  := by
  have hformat : (formatIn? world).getD ((formatIn? world).getD options.format)
      = (formatIn? world).getD options.format := by
    cases formatIn? world with
    | none => rfl
    | some format => rfl
  simp [inEnvironment, hformat]

/-- The module of options that are final is found again. -/
theorem modulePath_again {options : Options} {readme module : Path}
    (h : modulePath world (inEnvironment world options) readme = .ok module)
    (hmodule : module.IsSettled) :
  modulePath world
      { inEnvironment world options with
        readme := some readme
        module := (pathIn? world "MODULE_PATH").or (some module) }
      readme
    = .ok module
  := by
  rw [modulePath] at h ⊢
  by_cases henv : world.env "MODULE_PATH" = ""
  · rw [pathIn?_of_eq henv]
    apply absolute_eq_of_isSettled hmodule
  · rw [inEnvironment, pathIn?_of_ne henv] at h
    rw [pathIn?_of_ne henv]
    apply h

/-- Options that are final have settled paths, and they do not change when they are made final
again in the same environment, with the same accounts and in the same working directory. The paths
that are given may be those of any texts, by `Path.isProper_iff`. -/
theorem finalize_settles {options final : Options} (hcwd : world.files.cwd.IsSettled)
    (hreadme : ∀ path ∈ options.readme, path.IsProper)
    (hmodule : ∀ path ∈ options.module, path.IsProper)
    (h : (finalize world options).result = .ok final) :
  (∃ readme module, final.readme = some readme ∧ readme.IsSettled
      ∧ final.module = some module ∧ module.IsSettled)
    ∧ ∀ world' : World, world'.environment = world.environment →
      world'.accounts = world.accounts → world'.files.cwd = world.files.cwd →
        (finalize world' final).result = .ok final
  := by
  rw [finalize_result] at h
  obtain ⟨path, readme, module, hpath, habsolute, hmodulePath, rfl⟩ := exists_of_finalized_eq_ok h
  have hsettled := (ReadmeFrom.of_absolute hpath habsolute).isSettled hcwd hreadme
  have hsettled' := (ModuleFrom.of_modulePath hmodulePath).isSettled hcwd hmodule hsettled
  constructor
  · use readme, module, rfl, hsettled, rfl
  · intro world' henvironment haccounts hcwd'
    have hreadme' : absolute world readme = .ok readme := absolute_eq_of_isSettled hsettled
    rw [finalize_result, finalized_congr henvironment haccounts hcwd', finalized,
      inEnvironment_inEnvironment]
    dsimp only
    rw [hreadme']
    change (modulePath world _ readme >>= _) = _
    rw [modulePath_again hmodulePath hsettled']
    rfl

/-- A working directory, an environment without a home directory and with a workspace, and an
account with a relative home directory. -/
def wanderingWorld : World :=
  ⟨⟨.directory 4096 [], .ofText "/work/site"⟩,
    [("README_PATH", "other.md"), ("FORMAT", "tabular"), ("GITHUB_WORKSPACE", "~/../calls"),
      ("VERBOSE", "true")],
    ⟨some "../home/", fun _ => none⟩, fun _ => .status 200⟩

/-- Options with a README below the home directory, for the scope of a caller. -/
def wanderingOptions : Options :=
  { readme := some (.ofText "~//docs/./old/../README.md"), format := .fixed .table,
    files := ["LICENSE"], scope := .caller }

/-- What they are finally. -/
def settledOptions : Options :=
  { readme := some (.ofText "/work/home/docs/README.md"),
    module := some (.ofText "/work/site/calls"), files := ["LICENSE"], scope := .caller,
    verbose := true }

theorem finalize_settles_wandering :
  wanderingWorld.files.cwd.IsSettled
    ∧ (∀ path ∈ wanderingOptions.readme, path.IsProper)
    ∧ (finalize wanderingWorld wanderingOptions).result = .ok settledOptions
    ∧ (finalize wanderingWorld settledOptions).result = .ok settledOptions
  := by
  have hcwd : wanderingWorld.files.cwd.IsSettled := by
    constructor
    · constructor
      · rfl
      · decide +kernel
    · apply Path.ofText_isProper
    · decide +kernel
  have hreadme : ∀ path ∈ wanderingOptions.readme, path.IsProper := by
    rintro path ⟨⟩
    apply Path.ofText_isProper
  have hmodule : ∀ path ∈ wanderingOptions.module, path.IsProper := by
    rintro path ⟨⟩
  have h : (finalize wanderingWorld wanderingOptions).result = .ok settledOptions := by
    rw [finalize_result]
    rfl
  obtain ⟨-, hagain⟩ := finalize_settles hcwd hreadme hmodule h
  use hcwd, hreadme, h
  apply hagain wanderingWorld rfl rfl rfl

end ReadmeAudit.Options
