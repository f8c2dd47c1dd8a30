import Mathlib.Data.List.Basic
import ReadmeAudit.Proofs.Terraform.Module
import ReadmeAudit.Proofs.Terraform.Scan

/-!
# What keeps a module file from being understood

A file is `InOrder` for some types of blocks if it is absent, or if it can be read and each entry
that it has of these types is a list of blocks. There are three ways not to be: the file cannot be
read or is not well formed, which is an extraction error; an entry is a scalar, which has no
elements to go through; or an entry is of yet another form, which nobody notices. `Understanding`
tells the first two from the rest, for the items of a file and for its definitions, and the scan of
a module stops at the first file that it cannot understand.
-/

namespace ReadmeAudit.Terraform

open Files Hcl

/-! ### Files -/

/-- A value lists blocks if it is a tuple of objects. -/
def ListsBlocks : Value → Prop
  | .tuple items => ∀ item ∈ items, ∃ fields, item = .object fields
  | _ => False

/-- A file is in order for the blocks of some types if it is absent, or if it can be read and lists
blocks wherever it has an entry of these types. -/
def InOrder (files : FileSystem) (path : Path) (types : List String) : Prop :=
  load files path = .ok none
    ∨ ∃ fields, load files path = .ok (some fields)
      ∧ ∀ type ∈ types, ∀ value, fields.lookup type = some value → ListsBlocks value

/-- A file has a scalar where the blocks of one of some types are expected. -/
def HasScalar (files : FileSystem) (path : Path) (types : List String) : Prop :=
  ∃ fields, load files path = .ok (some fields)
    ∧ ∃ type ∈ types, fields.lookup type = some .scalar

variable {files : FileSystem} {path : Path} {types : List String} {α : Type}

theorem InOrder.not_hasScalar (h : InOrder files path types) :
  ¬ HasScalar files path types
  := by
  rintro ⟨fields, hload, type, htype, hlookup⟩
  rcases h with habsent | ⟨fields', hload', hlists⟩
  · rw [hload] at habsent
    cases habsent
  · rw [hload] at hload'
    obtain rfl := Option.some.inj (Except.ok.inj hload')
    apply hlists type htype _ hlookup

theorem InOrder.load_ne_error (h : InOrder files path types) (failure : Failure) :
  load files path ≠ .error failure
  := by
  rcases h with habsent | ⟨fields, hload, -⟩
  · rw [habsent]
    rintro ⟨⟩
  · rw [hload]
    rintro ⟨⟩

theorem HasScalar.load_ne_error (h : HasScalar files path types) (failure : Failure) :
  load files path ≠ .error failure
  := by
  obtain ⟨fields, hload, -⟩ := h
  rw [hload]
  rintro ⟨⟩

/-- The only failures of loading a file are extraction errors about the file. -/
theorem load_eq_error {failure : Failure} (h : load files path = .error failure) :
  ∃ error, failure = .extraction error ∧ error ≠ .noResources
  := by
  rw [load] at h
  split at h
  · next fault _ =>
    split at h
    · cases h
    · obtain rfl := Except.error.inj h
      use .unreadable path.name fault, rfl
      rintro ⟨⟩
  · obtain rfl := Except.error.inj h
    use .malformed path.name, rfl
    rintro ⟨⟩
  · split at h
    · cases h
    · obtain rfl := Except.error.inj h
      use .malformed path.name, rfl
      rintro ⟨⟩

theorem ne_noResources_of_load {error : ExtractionError}
    (h : load files path = .error (.extraction error)) :
  error ≠ .noResources
  := by
  obtain ⟨other, hother, hne⟩ := load_eq_error h
  rw [Failure.extraction.inj hother]
  apply hne

/-! ### The understanding of a file -/

/-- How the attempt to understand the blocks of some types in a file ends. -/
inductive Understanding (files : FileSystem) (path : Path) (types : List String) :
    Except Failure α → Prop where
  /-- The file cannot be loaded. -/
  | unreadable {error : ExtractionError} (load_eq : load files path = .error (.extraction error)) :
      Understanding files path types (.error (.extraction error))
  /-- A scalar is in the way. -/
  | stuck (scalar : HasScalar files path types) :
      Understanding files path types (.error .noElements)
  /-- Nothing is in the way. -/
  | understood (load_ne : ∀ failure, load files path ≠ .error failure)
      (no_scalar : ¬ HasScalar files path types) (value : α) :
      Understanding files path types (.ok value)

namespace Understanding

variable {result : Except Failure α}

/-- The extraction errors are those of loading the file. -/
theorem eq_extraction_iff (h : Understanding files path types result) {error : ExtractionError} :
  result = .error (.extraction error) ↔ load files path = .error (.extraction error)
  := by
  cases h with
  | unreadable hload =>
      rw [hload, Except.error.injEq, Except.error.injEq]
  | stuck hscalar =>
      constructor
      · rintro ⟨⟩
      · intro hload
        apply absurd hload (hscalar.load_ne_error _)
  | understood hload hscalar value =>
      constructor
      · rintro ⟨⟩
      · intro herror
        apply absurd herror (hload _)

/-- Every other failure comes from a scalar. -/
theorem exists_eq_other_iff (h : Understanding files path types result) :
  (∃ failure, result = .error failure ∧ ∀ error, failure ≠ .extraction error)
    ↔ HasScalar files path types
  := by
  cases h with
  | unreadable hload =>
      constructor
      · rintro ⟨failure, hfailure, hother⟩
        apply absurd (Except.error.inj hfailure).symm (hother _)
      · intro hscalar
        apply absurd hload (hscalar.load_ne_error _)
  | stuck hscalar =>
      apply iff_of_true _ hscalar
      use .noElements, rfl
      rintro error ⟨⟩
  | understood hload hscalar value =>
      apply iff_of_false _ hscalar
      rintro ⟨failure, ⟨⟩, -⟩

/-- The options have nothing to do with it. -/
theorem ne_options (h : Understanding files path types result) (error : OptionError) :
  result ≠ .error (.options error)
  := by
  rintro rfl
  cases h

theorem exists_eq_ok (h : Understanding files path types result)
    (horder : InOrder files path types) :
  ∃ value, result = .ok value
  := by
  cases h with
  | unreadable hload => apply absurd hload (horder.load_ne_error _)
  | stuck hscalar => apply absurd hscalar horder.not_hasScalar
  | understood hload hscalar value => use value

/-- What is made of a file is understood in this way if an absent file is no obstacle, and the
fields of a file are one exactly if there is a scalar among them. -/
theorem of_load {read : Option Fields → Except Failure α}
    (habsent : ∃ value, read none = .ok value)
    (hstuck : ∀ fields : Fields, (∃ type ∈ types, fields.lookup type = some .scalar) →
      read (some fields) = .error .noElements)
    (hunderstood : ∀ fields : Fields, (¬ ∃ type ∈ types, fields.lookup type = some .scalar) →
      ∃ value, read (some fields) = .ok value) :
  Understanding files path types ((load files path).bind read)
  := by
  cases hload : load files path with
  | error failure =>
      obtain ⟨error, rfl, -⟩ := load_eq_error hload
      apply Understanding.unreadable hload
  | ok loaded =>
      have hload_ne : ∀ failure, load files path ≠ .error failure := by
        intro failure
        rw [hload]
        rintro ⟨⟩
      cases loaded with
      | none =>
          obtain ⟨value, hvalue⟩ := habsent
          rw [Except.bind, hvalue]
          apply Understanding.understood hload_ne
          rintro ⟨fields, hfields, -⟩
          rw [hload] at hfields
          cases hfields
      | some fields =>
          by_cases hscalar : ∃ type ∈ types, fields.lookup type = some .scalar
          · rw [Except.bind, hstuck fields hscalar]
            apply Understanding.stuck ⟨fields, hload, hscalar⟩
          · obtain ⟨value, hvalue⟩ := hunderstood fields hscalar
            rw [Except.bind, hvalue]
            apply Understanding.understood hload_ne
            rintro ⟨fields', hfields', hscalar'⟩
            rw [hload] at hfields'
            obtain rfl := Option.some.inj (Except.ok.inj hfields')
            apply hscalar hscalar'

end Understanding

/-! ### Items and definitions of a file -/

theorem blocks_of_scalar {fields : Fields} {type : String}
    (h : fields.lookup type = some .scalar) :
  blocks fields type = .error .noElements
  := by
  rw [blocks, h]

theorem exists_blocks_eq_ok {fields : Fields} {type : String}
    (h : fields.lookup type ≠ some .scalar) :
  ∃ found, blocks fields type = .ok found
  := by
  rw [blocks]
  split
  · use []
  · next items _ => use items
  · use []
  · use []
  · contradiction

/-- The items of a type that a file declares. -/
def declaredIn (files : FileSystem) (path : Path) (type : String) : Except Failure (List String) :=
  (load files path).bind fun
    | none => .ok []
    | some fields => declaredItems fields type

theorem items_ends_declaredIn {readme : Readme} {type : String} :
  Audit.Ends readme (Module.items files path type) (declaredIn files path type)
  := by
  rw [Module.items, declaredIn]
  cases load files path with
  | error failure => apply Audit.Ends.throw
  | ok loaded =>
      cases loaded with
      | none => apply Audit.Ends.pure
      | some fields =>
          apply Audit.ofExcept_bind_ends
          intro found
          apply Audit.Ends.bind (Audit.note_ends _)
          apply Audit.Ends.pure

theorem declaredIn_understanding (files : FileSystem) (path : Path) (type : String) :
  Understanding files path [type] (declaredIn files path type)
  := by
  apply Understanding.of_load
  · use []
  · intro fields hscalar
    simp only [List.mem_singleton, exists_eq_left] at hscalar
    simp only [declaredItems, blocks_of_scalar hscalar]
    rfl
  · intro fields hscalar
    simp only [List.mem_singleton, exists_eq_left] at hscalar
    obtain ⟨found, hfound⟩ := exists_blocks_eq_ok hscalar
    use found.flatMap labels
    simp only [declaredItems, hfound]
    rfl

/-- The types of the blocks that declare resources and data sources. -/
def definitionTypes : List String := ["resource", "data"]

theorem scanFile_understanding (files : FileSystem) (path : Path) :
  Understanding files path definitionTypes (scanFile files path)
  := by
  apply Understanding.of_load
  · use ⟨[], []⟩
    rfl
  · rintro fields ⟨type, htype, hscalar⟩
    by_cases hresource : fields.lookup "resource" = some .scalar
    · simp only [definitions, blocks_of_scalar hresource]
      rfl
    · obtain ⟨resources, hresources⟩ := exists_blocks_eq_ok hresource
      obtain rfl : type = "data" := by
        rcases List.mem_pair.mp htype with rfl | htype
        · contradiction
        · apply htype
      simp only [definitions, hresources, blocks_of_scalar hscalar]
      rfl
  · intro fields hscalar
    obtain ⟨resources, hresources⟩ : ∃ found, blocks fields "resource" = .ok found := by
      apply exists_blocks_eq_ok
      intro h
      apply hscalar ⟨"resource", List.mem_pair.mpr (Or.inl rfl), h⟩
    obtain ⟨dataSources, hdataSources⟩ : ∃ found, blocks fields "data" = .ok found := by
      apply exists_blocks_eq_ok
      intro h
      apply hscalar ⟨"data", List.mem_pair.mpr (Or.inr rfl), h⟩
    simp only [definitions, hresources, hdataSources]
    use ⟨resources.flatMap definitionNames, dataSources.flatMap definitionNames⟩
    rfl

/-! ### Scans -/

/-- A list of files is scanned up to a file if all the files before it can be scanned. -/
def ScannedUpTo (files : FileSystem) (paths : List Path) (path : Path) : Prop :=
  ∃ before after, paths = before ++ path :: after
    ∧ ∀ earlier ∈ before, ∃ found, scanFile files earlier = .ok found

theorem scanFiles_eq_error_iff {paths : List Path} {failure : Failure} :
  scanFiles files paths = .error failure
    ↔ ∃ path, ScannedUpTo files paths path ∧ scanFile files path = .error failure
  := by
  constructor
  · intro h
    rcases scanFiles_cases files paths with ⟨found, -, hfound⟩ | hfailure
    · rw [hfound] at h
      cases h
    · obtain ⟨before, path, after, other, rfl, hbefore, hpath, hother⟩ := hfailure
      rw [h] at hother
      obtain rfl := Except.error.inj hother
      use path, ⟨before, after, rfl, hbefore⟩
  · rintro ⟨path, ⟨before, after, rfl, hbefore⟩, hpath⟩
    induction before with
    | nil =>
        rw [List.nil_append, scanFiles, hpath]
        rfl
    | cons first before ih =>
        obtain ⟨found, hfound⟩ := hbefore first List.mem_cons_self
        have hrest := ih fun earlier hearlier => hbefore earlier (List.mem_cons_of_mem _ hearlier)
        rw [List.cons_append, scanFiles, hfound, hrest]
        rfl

/-- The scan of files that are in order comes to an end. -/
theorem exists_scanFiles_eq_ok {paths : List Path}
    (h : ∀ path ∈ paths, InOrder files path definitionTypes) :
  ∃ found, scanFiles files paths = .ok found
  := by
  cases hscan : scanFiles files paths with
  | ok found => use found
  | error failure =>
      obtain ⟨path, ⟨before, after, rfl, -⟩, hpath⟩ := scanFiles_eq_error_iff.mp hscan
      obtain ⟨found, hfound⟩ := (scanFile_understanding files path).exists_eq_ok
        (h path List.mem_append_cons_self)
      rw [hpath] at hfound
      cases hfound

namespace Module

variable {module : Module}

/-- The files that a module is scanned for. -/
def scannedFiles (module : Module) (files : FileSystem) : Except Failure (List Path) :=
  match module.scope with
  | .caller => module.callerFiles files
  | .module => module.ownFiles files

theorem scan_eq :
  module.scan files = (module.scannedFiles files).bind (scanFiles files)
  := by
  rw [scan, scannedFiles]
  cases module.scope with
  | caller => apply scanCaller_eq
  | module => rfl

/-- There are no files to scan for only if the system refuses to tell whether a directory is
there. -/
theorem scannedFiles_eq_error {failure : Failure} (h : module.scannedFiles files = .error failure) :
  ∃ fault, failure = .refused fault
  := by
  rw [scannedFiles] at h
  split at h
  · obtain ⟨fault, -, hfault⟩ := callerFiles_eq_error files h
    use fault
  · rw [ownFiles] at h
    split at h
    · next fault _ => use fault, (Except.error.inj h).symm
    · cases h
    · cases h

/-- The scan of a module comes to a file if all the files before it can be scanned. -/
def ScanComesTo (module : Module) (files : FileSystem) (path : Path) : Prop :=
  ∃ paths, module.scannedFiles files = .ok paths ∧ ScannedUpTo files paths path

/-- The files that a module is scanned for are in order. -/
def FilesInOrder (module : Module) (files : FileSystem) : Prop :=
  ∃ paths, module.scannedFiles files = .ok paths
    ∧ ∀ path ∈ paths, InOrder files path definitionTypes

theorem scan_eq_error_iff {failure : Failure} :
  module.scan files = .error failure
    ↔ module.scannedFiles files = .error failure
      ∨ ∃ path, module.ScanComesTo files path ∧ scanFile files path = .error failure
  := by
  rw [scan_eq]
  simp only [ScanComesTo]
  cases module.scannedFiles files with
  | error other => simp [Except.bind]
  | ok paths => simp [Except.bind, scanFiles_eq_error_iff]

/-- The scan fails by an extraction error if it comes to a file that cannot be loaded. -/
theorem scan_eq_extraction_iff {error : ExtractionError} :
  module.scan files = .error (.extraction error)
    ↔ ∃ path, module.ScanComesTo files path ∧ load files path = .error (.extraction error)
  := by
  have hrefused : module.scannedFiles files ≠ .error (.extraction error) := by
    intro h
    obtain ⟨fault, hfault⟩ := scannedFiles_eq_error h
    cases hfault
  rw [scan_eq_error_iff, or_iff_right hrefused]
  simp only [(scanFile_understanding files _).eq_extraction_iff]

/-- The scan fails in another way if the system refuses to tell what there is to scan, or if it
comes to a file with a scalar in the way. -/
theorem exists_scan_eq_other_iff :
  (∃ failure, module.scan files = .error failure ∧ ∀ error, failure ≠ .extraction error)
    ↔ (∃ fault, module.scannedFiles files = .error (.refused fault))
      ∨ ∃ path, module.ScanComesTo files path ∧ HasScalar files path definitionTypes
  := by
  simp only [← (scanFile_understanding files _).exists_eq_other_iff, scan_eq_error_iff]
  constructor
  · rintro ⟨failure, hrefused | ⟨path, hpath, hfailure⟩, hother⟩
    · obtain ⟨fault, rfl⟩ := scannedFiles_eq_error hrefused
      apply Or.inl ⟨fault, hrefused⟩
    · apply Or.inr ⟨path, hpath, failure, hfailure, hother⟩
  · rintro (⟨fault, hfault⟩ | ⟨path, hpath, failure, hfailure, hother⟩)
    · use .refused fault, Or.inl hfault
      rintro error ⟨⟩
    · use failure, Or.inr ⟨path, hpath, hfailure⟩

theorem FilesInOrder.exists_scan_eq_ok (h : module.FilesInOrder files) :
  ∃ found, module.scan files = .ok found
  := by
  obtain ⟨paths, hpaths, horder⟩ := h
  rw [scan_eq, hpaths]
  apply exists_scanFiles_eq_ok horder

end Module

end ReadmeAudit.Terraform
