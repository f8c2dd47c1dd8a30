import ReadmeAudit.Proofs.Check.Items
import ReadmeAudit.Proofs.Terraform.Obstacle

/-!
# What the checks of the items do about obstacles

If what a module declares cannot be determined, a check of its items `Reports` that as the only
problem whenever a module file cannot be read or is not well formed. It `Fails`, without a list of
problems, if a scalar stands where blocks are expected, or if the system refuses to tell whether a
directory is there. An entry of another form than a list of blocks is not noticed at all. These are
all the cases, and they do not depend on what has been asked or noted before.
-/

namespace ReadmeAudit.Check

open Files Terraform Hcl

variable {readme : Readme}

/-! ### Reports and failures -/

/-- A check reports an obstacle if it finds a list of problems, of which the only one, in the
presence of the obstacle, is that a module file could not be read. -/
def Reports (check : Audit (List Problem)) (trace : Trace) (obstacle : Prop) : Prop :=
  ∃ problems after, check.outcome trace = (.ok problems, after)
    ∧ (obstacle → ∃ error, problems = [.extraction error] ∧ error ≠ .noResources)

/-- A check fails if it does not find a list of problems. -/
def Fails (check : Audit (List Problem)) (trace : Trace) : Prop :=
  ∃ failure after, check.outcome trace = (.error failure, after)

section

variable {α : Type} {check : Audit (List Problem)} {result : Except Failure α}
  {problems : α → List Problem} {trace : Trace}

/-- A check fails exactly when it cannot be determined what is declared and the failure is no
extraction error. -/
theorem fails_iff (hends : Audit.Ends readme check (reported problems result))
    (htrace : trace.memo.Faithful readme) :
  Fails check trace ↔ ∃ failure, result = .error failure ∧ ∀ error, failure ≠ .extraction error
  := by
  obtain ⟨after, houtcome, -⟩ := hends trace htrace
  rw [Fails, houtcome]
  cases result with
  | ok value => simp [reported]
  | error failure =>
      by_cases hextraction : ∃ error, failure = .extraction error
      · obtain ⟨error, rfl⟩ := hextraction
        simp [reported]
      · rw [not_exists] at hextraction
        rw [reported_failure hextraction]
        apply iff_of_true
        · use failure, after
        · use failure, rfl

/-- A check reports an obstacle exactly when there is none and what is declared can be determined,
or when the determination ends with an extraction error. -/
theorem reports_iff {obstacle : Prop} (hends : Audit.Ends readme check (reported problems result))
    (hproblems : ∀ value error, problems value = [.extraction error] → error = .noResources)
    (hresult : ∀ error, result = .error (.extraction error) → error ≠ .noResources)
    (htrace : trace.memo.Faithful readme) :
  Reports check trace obstacle
    ↔ (∃ value, result = .ok value) ∧ ¬ obstacle ∨ ∃ error, result = .error (.extraction error)
  := by
  obtain ⟨after, houtcome, -⟩ := hends trace htrace
  rw [Reports, houtcome]
  cases result with
  | ok value =>
      have hnot : ¬ ∃ error, problems value = [.extraction error] ∧ error ≠ .noResources := by
        rintro ⟨error, heq, hne⟩
        apply hne (hproblems value error heq)
      simp [reported, hnot]
  | error failure =>
      by_cases hextraction : ∃ error, failure = .extraction error
      · obtain ⟨error, rfl⟩ := hextraction
        have hne := hresult error rfl
        simp [reported, hne]
      · rw [not_exists] at hextraction
        rw [reported_failure hextraction]
        simp [hextraction]

end

/-! ### The problems of what is declared -/

/-- A comparison reports nothing but items that one side lacks. -/
theorem extraction_notMem_reconcile {declared documented : List String} {itemType : String}
    {error : ExtractionError} :
  .extraction error ∉ reconcile declared documented itemType
  := by
  simp [reconcile, Reconciliation.problems]

theorem itemProblems_ne_extraction {type : ItemType} {declared : List String}
    {error : ExtractionError} :
  itemProblems readme type declared ≠ [.extraction error]
  := by
  intro h
  have hmem : .extraction error ∈ itemProblems readme type declared := by
    rw [h]
    apply List.mem_singleton_self
  rw [itemProblems] at hmem
  split at hmem
  · cases hmem
  · apply extraction_notMem_reconcile hmem

theorem inventoryProblems_ne_extraction {declared documented : Inventory}
    {error : ExtractionError} :
  inventoryProblems declared documented ≠ [.extraction error]
  := by
  intro h
  have hmem : .extraction error ∈ inventoryProblems declared documented := by
    rw [h]
    apply List.mem_singleton_self
  rw [inventoryProblems, List.mem_append] at hmem
  rcases hmem with hmem | hmem
  · apply extraction_notMem_reconcile hmem
  · apply extraction_notMem_reconcile hmem

/-- The only extraction error of the README is that it links no resource. -/
theorem resourceProblems_eq_extraction {declared : Inventory} {error : ExtractionError}
    (h : resourceProblems readme declared = [.extraction error]) :
  error = .noResources
  := by
  rw [resourceProblems, Readme.inventory_eq] at h
  split at h
  · apply absurd h inventoryProblems_ne_extraction
  · next other hother =>
    split at hother
    · obtain rfl := Except.error.inj hother
      split at h
      · apply absurd h inventoryProblems_ne_extraction
      · split at h
        · apply (Problem.extraction.inj (List.singleton_inj.mp h)).symm
        · cases h
    · cases hother

/-! ### The checks -/

variable {module : Module} {files : FileSystem} {type : ItemType} {trace : Trace}

/-- The check of the items of a type reports everything that is not in order in their file, exactly
when all is in order or the file cannot be loaded. -/
theorem reports_items_iff (htrace : trace.memo.Faithful readme) :
  Reports (items readme module files type) trace
      (¬ InOrder files (module.itemFile (.ofText type.file)) [type.blockType])
    ↔ InOrder files (module.itemFile (.ofText type.file)) [type.blockType]
      ∨ ∃ error, load files (module.itemFile (.ofText type.file)) = .error (.extraction error)
  := by
  have hfile := declaredIn_understanding files (module.itemFile (.ofText type.file)) type.blockType
  have hproblems : ∀ declared error, itemProblems readme type declared = [.extraction error] →
      error = .noResources := by
    intro declared error h
    apply absurd h itemProblems_ne_extraction
  have hresult : ∀ error,
      declaredIn files (module.itemFile (.ofText type.file)) type.blockType
        = .error (.extraction error) → error ≠ .noResources := by
    intro error h
    apply ne_noResources_of_load (hfile.eq_extraction_iff.mp h)
  rw [reports_iff (items_ends_reported items_ends_declaredIn) hproblems hresult htrace, not_not,
    and_iff_right_of_imp hfile.exists_eq_ok]
  simp only [hfile.eq_extraction_iff]

theorem fails_items_iff (htrace : trace.memo.Faithful readme) :
  Fails (items readme module files type) trace
    ↔ HasScalar files (module.itemFile (.ofText type.file)) [type.blockType]
  := by
  rw [fails_iff (items_ends_reported items_ends_declaredIn) htrace]
  apply (declaredIn_understanding files _ type.blockType).exists_eq_other_iff

/-- The check of the resources and data sources reports everything that is not in order in the files
that are scanned for them, exactly when all is in order or the scan comes to a file that cannot be
loaded. -/
theorem reports_resources_iff (htrace : trace.memo.Faithful readme) :
  Reports (resources readme module files) trace (¬ module.FilesInOrder files)
    ↔ module.FilesInOrder files
      ∨ ∃ error path, module.ScanComesTo files path ∧ load files path = .error (.extraction error)
  := by
  have hresult : ∀ error, module.scan files = .error (.extraction error) →
      error ≠ .noResources := by
    intro error h
    obtain ⟨path, -, hload⟩ := Module.scan_eq_extraction_iff.mp h
    apply ne_noResources_of_load hload
  rw [reports_iff resources_ends_reported (fun _ _ => resourceProblems_eq_extraction) hresult
    htrace, not_not, and_iff_right_of_imp Module.FilesInOrder.exists_scan_eq_ok]
  simp only [Module.scan_eq_extraction_iff]

theorem fails_resources_iff (htrace : trace.memo.Faithful readme) :
  Fails (resources readme module files) trace
    ↔ (∃ fault, module.scannedFiles files = .error (.refused fault))
      ∨ ∃ path, module.ScanComesTo files path ∧ HasScalar files path definitionTypes
  := by
  rw [fails_iff resources_ends_reported htrace, Module.exists_scan_eq_other_iff]

/-- A file in which `variable` is a number. -/
def numberFiles : FileSystem :=
  .holding "variables.tf" "variable = 5"

/-- A README without any content. -/
def emptyReadme : Readme :=
  .read "" (.fixed .document) []

theorem hasScalar_numberFiles :
  HasScalar numberFiles (Module.here.itemFile (.ofText "variables.tf")) ["variable"]
  := by
  have hload : load numberFiles (Module.here.itemFile (.ofText "variables.tf"))
      = .ok (some [("variable", .scalar)]) := by
    decide +kernel
  use [("variable", .scalar)], hload, "variable", List.mem_singleton_self _
  rfl

/-- The checks of the items report every obstacle as the only problem exactly when there is none, or
when the obstacle is a file that cannot be loaded and nothing before it stops the scan. They fail
exactly when a scalar stands where blocks are expected, or when the system refuses to tell which
files there are. It is so at any point of an audit. -/
theorem items_and_resources_report_iff
    (readme : Readme) (module : Module) (files : FileSystem) (type : ItemType)
    (queries : List Query) (events : List Event) (requests : List String) :
  (Reports (items readme module files type) (.afterQueries readme queries events requests)
        (¬ InOrder files (module.itemFile (.ofText type.file)) [type.blockType])
      ↔ InOrder files (module.itemFile (.ofText type.file)) [type.blockType]
        ∨ ∃ error, load files (module.itemFile (.ofText type.file)) = .error (.extraction error))
    ∧ (Fails (items readme module files type) (.afterQueries readme queries events requests)
      ↔ HasScalar files (module.itemFile (.ofText type.file)) [type.blockType])
    ∧ (Reports (resources readme module files) (.afterQueries readme queries events requests)
        (¬ module.FilesInOrder files)
      ↔ module.FilesInOrder files
        ∨ ∃ error path, module.ScanComesTo files path
          ∧ load files path = .error (.extraction error))
    ∧ (Fails (resources readme module files) (.afterQueries readme queries events requests)
      ↔ (∃ fault, module.scannedFiles files = .error (.refused fault))
        ∨ ∃ path, module.ScanComesTo files path ∧ HasScalar files path definitionTypes)
  := by
  have htrace := Trace.afterQueries_faithful readme queries events requests
  use reports_items_iff htrace, fails_items_iff htrace, reports_resources_iff htrace
  apply fails_resources_iff htrace

/-- The check of the variables fails, and finds no list of problems, at a file that defines
`variable` as a number. -/
theorem items_fails_at_number :
  Fails (items emptyReadme .here numberFiles (.inputs .document)) .empty
    ∧ ¬ Reports (items emptyReadme .here numberFiles (.inputs .document)) .empty
      (¬ InOrder numberFiles (Module.here.itemFile (.ofText "variables.tf")) ["variable"])
  := by
  have htrace := Memo.empty_faithful emptyReadme
  have hfails : Fails (items emptyReadme .here numberFiles (.inputs .document)) .empty :=
    (fails_items_iff htrace).mpr hasScalar_numberFiles
  use hfails
  rintro ⟨problems, after, hreports, -⟩
  obtain ⟨failure, after', hfailure⟩ := hfails
  rw [hreports] at hfailure
  cases hfailure

end ReadmeAudit.Check
