import Mathlib.Data.List.Perm.Basic
import Mathlib.Tactic.Use
import ReadmeAudit.Proofs.Files.Tree
import ReadmeAudit.Proofs.Terraform.Scan

/-!
# The files of a workspace

The lists of files that a workspace is read from are put together from three enumerations: the main
file of the caller, the files directly in the directory of its modules, and the files below each
directory there. Together they are the main file and the module files of one tree, each once. They
are the same lists for like trees: neither the order in which directories are listed nor the
content of files has a part in them.
-/

namespace ReadmeAudit.Terraform

open Files

theorem isModuleFile_iff {name : String} :
  isModuleFile name = true ↔ ∃ stem, name = stem ++ ending
  := by
  rw [isModuleFile, List.isSuffixOf_iff_suffix]
  constructor
  · rintro ⟨stem, hstem⟩
    use String.ofList stem
    rw [← String.toList_inj, String.toList_append, String.toList_ofList, hstem]
  · rintro ⟨stem, rfl⟩
    use stem.toList
    rw [String.toList_append]

namespace Module

/-! ### One tree from three enumerations -/

variable (directory : Path) {size : Nat} {entries entries' : List (String × Entry)}

theorem filesAt_file (name : String) (content : ByteArray) :
  Entry.filesAt isModuleFile (directory.child name) (.file content)
    = if isModuleFile name then [directory.child name] else []
  := by
  rw [Entry.filesAt, Path.child_eq_below, ← List.nil_append [name], Path.name_below_concat]

/-- The files directly in a directory are the files at its entries that are files. -/
theorem looseFiles_perm :
  (looseFiles directory entries).Perm
    ((entries.filter fun pair => pair.2.isFile).flatMap fun pair =>
      Entry.filesAt isModuleFile (directory.child pair.1) pair.2)
  := by
  apply (Path.sort_perm _).trans
  apply List.Perm.of_eq
  induction entries with
  | nil => rfl
  | cons pair rest ih =>
      obtain ⟨name, entry⟩ := pair
      cases entry with
      | directory size nested => simpa [Entry.isFile, Entry.isDirectory] using ih
      | file content =>
          have hfiles := filesAt_file directory name content
          by_cases hname : isModuleFile name
          · simpa [Entry.isFile, Entry.isDirectory, hname, hfiles] using ih
          · simpa [Entry.isFile, Entry.isDirectory, hname, hfiles] using ih

/-- The files below the directories of a directory are the files at its entries that are
directories. -/
theorem nestedFiles_perm :
  (nestedFiles directory entries).flatten.Perm
    ((entries.filter fun pair => pair.2.isDirectory).flatMap fun pair =>
      Entry.filesAt isModuleFile (directory.child pair.1) pair.2)
  := by
  rw [nestedFiles, ← List.flatMap_def]
  apply List.Perm.trans (List.Perm.flatMap_left _ fun pair _ => Path.sort_perm _)
  apply (List.mergeSort_perm _ _).flatMap_right _

theorem looseFiles_append_nestedFiles_perm :
  (looseFiles directory entries ++ (nestedFiles directory entries).flatten).Perm
    (Entry.filesAt isModuleFile directory (.directory size entries))
  := by
  apply ((looseFiles_perm directory).append (nestedFiles_perm directory)).trans
  rw [Entry.filesAt, Entry.filesIn_eq_flatMap, ← List.flatMap_append]
  apply List.Perm.flatMap_right
  apply List.perm_append_comm.trans
  apply List.filter_append_perm (fun pair : String × Entry => pair.2.isDirectory) entries

/-- The module files of a directory are what the ways down that end at a file with their ending
lead to. -/
theorem mem_moduleFiles_iff (h : (Entry.directory size entries).IsTree) {path : Path} :
  path ∈ Entry.filesAt isModuleFile directory (.directory size entries)
    ↔ ∃ way stem content,
      (Entry.directory size entries).at? (way ++ [stem ++ ".tf"]) = some (.file content)
      ∧ path = directory.below (way ++ [stem ++ ".tf"])
  := by
  rw [h.mem_filesAt_iff]
  constructor
  · rintro ⟨way, content, hway, rfl, hname⟩
    obtain rfl | ⟨way, name, rfl⟩ := way.eq_nil_or_concat'
    · cases hway
    · rw [Path.name_below_concat] at hname
      obtain ⟨stem, rfl⟩ := isModuleFile_iff.mp hname
      use way, stem, content, hway
      rfl
  · rintro ⟨way, stem, content, hway, rfl⟩
    use way ++ [stem ++ ".tf"], content, hway, rfl
    rw [Path.name_below_concat]
    apply isModuleFile_iff.mpr ⟨stem, rfl⟩

/-! ### Like trees -/

variable {entry other : Entry}

theorem looseFiles_congr (h : entry.Alike other) :
  looseFiles directory entry.entries = looseFiles directory other.entries
  := by
  have hnames := h.names_perm fun name isDirectory => !isDirectory && isModuleFile name
  have hpaths := hnames.map directory.child
  rw [Entry.names, Entry.names, List.map_map, List.map_map] at hpaths
  apply Path.sort_eq_of_perm hpaths

/-- What is sorted by name has its names in order. -/
theorem map_fst_mergeSort_congr {pairs pairs' : List (String × Entry)}
    (h : (pairs.map Prod.fst).Perm (pairs'.map Prod.fst)) :
  (pairs.mergeSort fun a b => decide (a.1 ≤ b.1)).map Prod.fst
    = (pairs'.mergeSort fun a b => decide (a.1 ≤ b.1)).map Prod.fst
  := by
  have hsorted : ∀ pairs : List (String × Entry),
      ((pairs.mergeSort fun a b => decide (a.1 ≤ b.1)).map Prod.fst).Pairwise (· ≤ ·) := by
    intro pairs
    rw [List.pairwise_map]
    apply (List.pairwise_mergeSort _ _ pairs).imp
    · intro first second hle
      apply of_decide_eq_true hle
    · intro first second third hfirst hsecond
      apply decide_eq_true
      apply String.le_trans (of_decide_eq_true hfirst) (of_decide_eq_true hsecond)
    · intro first second
      rw [Bool.or_eq_true, decide_eq_true_iff, decide_eq_true_iff]
      apply String.le_total
  have hperm := ((List.mergeSort_perm pairs fun a b => decide (a.1 ≤ b.1)).map Prod.fst).trans
    (h.trans ((List.mergeSort_perm pairs' fun a b => decide (a.1 ≤ b.1)).map Prod.fst).symm)
  apply hperm.eq_of_pairwise _ (hsorted pairs) (hsorted pairs')
  intro first second _ _
  apply String.le_antisymm

/-- If what is below an entry depends on its name only, the names in order tell all of it. -/
theorem nestedFiles_eq_map {below : String → List Path}
    (h : ∀ pair ∈ entries,
      Path.sort (Entry.filesAt isModuleFile (directory.child pair.1) pair.2) = below pair.1) :
  nestedFiles directory entries
    = (((entries.filter fun pair => pair.2.isDirectory).mergeSort
      fun a b => decide (a.1 ≤ b.1)).map Prod.fst).map below
  := by
  rw [nestedFiles, List.map_map]
  apply List.map_congr_left
  intro pair hpair
  apply h pair (List.mem_filter.mp (List.mem_mergeSort.mp hpair)).1

theorem nestedFiles_congr (h : entry.Alike other) :
  nestedFiles directory entry.entries = nestedFiles directory other.entries
  := by
  -- The files that the first tree has below a name serve for both.
  let below (name : String) : List Path :=
    Path.sort (((entry.entries.lookup name).map
      (Entry.filesAt isModuleFile (directory.child name))).getD [])
  have hbelow : ∀ pair ∈ entry.entries,
      Path.sort (Entry.filesAt isModuleFile (directory.child pair.1) pair.2) = below pair.1 := by
    intro pair hpair
    have hlookup : entry.entries.lookup pair.1 = some pair.2 :=
      h.isTree.lookup_eq_some_iff.mpr hpair
    simp only [below, hlookup, Option.map_some, Option.getD_some]
  have hbelow' : ∀ pair ∈ other.entries,
      Path.sort (Entry.filesAt isModuleFile (directory.child pair.1) pair.2) = below pair.1 := by
    intro pair hpair
    have hlookup : other.entries.lookup pair.1 = some pair.2 :=
      h.isTree_other.lookup_eq_some_iff.mpr hpair
    obtain ⟨next, hnext, halike⟩ := h.symm.lookup hlookup
    simp only [below, hnext, Option.map_some, Option.getD_some]
    apply halike.sort_filesAt
  rw [nestedFiles_eq_map directory hbelow, nestedFiles_eq_map directory hbelow',
    map_fst_mergeSort_congr (h.names_perm fun _ isDirectory => isDirectory)]

/-! ### The lists of a workspace -/

variable {files files' : FileSystem} (module : Module)

theorem subtrees_congr (hroot : files.root.Alike files'.root) (hcwd : files.cwd = files'.cwd) :
  module.subtrees files = module.subtrees files'
  := by
  have hfound := FileSystem.find_alike hroot hcwd (module.callerPath.child "modules")
  rw [subtrees, subtrees, FileSystem.isDirectory_eq_of_alike hroot hcwd, FileSystem.list,
    FileSystem.list]
  generalize files.find _ = found at hfound ⊢
  generalize files'.find _ = found' at hfound ⊢
  cases hfound with
  | error failure => rfl
  | ok halike => simp only [looseFiles_congr _ halike, nestedFiles_congr _ halike]

/-- If the caller has a directory of modules, the lists hold its main file and the module files
below the directory. -/
theorem exists_subtrees_eq_ok
    (h : files.isDirectory (module.callerPath.child "modules") = .ok true) :
  ∃ size entries lists,
    files.find (module.callerPath.child "modules") = .ok (.directory size entries)
    ∧ module.subtrees files = .ok lists
    ∧ lists.flatten.Perm (module.callerPath.child "main.tf"
      :: Entry.filesAt isModuleFile (module.callerPath.child "modules") (.directory size entries))
  := by
  obtain ⟨entry, hfind, hdirectory⟩ := FileSystem.test_eq_true_iff.mp h
  obtain content | ⟨size, entries⟩ := entry
  · cases hdirectory
  have hlist : files.list (module.callerPath.child "modules") = entries := by
    rw [FileSystem.list, hfind]
    rfl
  rw [subtrees, h, hlist]
  refine ⟨size, entries, _, hfind, rfl, ?_⟩
  apply List.Perm.trans _ ((looseFiles_append_nestedFiles_perm _).cons _)
  split
  · next hloose =>
    rw [List.isEmpty_iff] at hloose
    rw [hloose]
    apply List.Perm.refl
  · simp

/-- The main file is not below the directory of modules. -/
theorem main_ne_below (way : List String) :
  module.callerPath.child "main.tf" ≠ (module.callerPath.child "modules").below way
  := by
  rw [Path.below_child, Path.child_eq_below]
  intro heq
  have hnames := List.cons.inj (Path.below_injective _ heq)
  apply absurd hnames.1
  decide

/-- In a tree where the caller has a directory of modules, the lists that are handed to the pool
hold the main file of the caller and each file at any depth below the directory whose name ends like
that of a module file, once each, and no other path. What leads to a directory is not among them,
whatever its name. Like trees give the same lists: the order in which directories are listed has no
part in them. -/
theorem subtrees_cover_modules_once (hroot : files.root.IsTree)
    (hmodules : files.isDirectory (module.callerPath.child "modules") = .ok true) :
  ∃ modules lists, files.find (module.callerPath.child "modules") = .ok modules
    ∧ module.subtrees files = .ok lists
    ∧ (∀ size schedule, module.scanCaller files size schedule
      = gather (Pool.results (Scan.work files) size (lists.map Scan.ofPaths) schedule))
    ∧ lists.flatten.Nodup
    ∧ (∀ path, path ∈ lists.flatten ↔ path = module.callerPath.child "main.tf"
      ∨ ∃ way stem content,
        modules.at? (way ++ [stem ++ ".tf"]) = some (.file content)
        ∧ path = (module.callerPath.child "modules").below (way ++ [stem ++ ".tf"]))
    ∧ (∀ way size entries, modules.at? way = some (.directory size entries) →
      (module.callerPath.child "modules").below way ∉ lists.flatten)
    ∧ ∀ other : FileSystem, files.root.Alike other.root → files.cwd = other.cwd →
      module.subtrees other = .ok lists
  := by
  obtain ⟨size, entries, lists, hfind, hlists, hperm⟩ := module.exists_subtrees_eq_ok hmodules
  have htree := FileSystem.find_isTree hroot hfind
  have hmem : ∀ path, path ∈ lists.flatten ↔ path = module.callerPath.child "main.tf"
      ∨ ∃ way stem content,
        (Entry.directory size entries).at? (way ++ [stem ++ ".tf"]) = some (.file content)
        ∧ path = (module.callerPath.child "modules").below (way ++ [stem ++ ".tf"]) := by
    intro path
    rw [hperm.mem_iff, List.mem_cons, mem_moduleFiles_iff _ htree]
  have hscan : ∀ size schedule, module.scanCaller files size schedule
      = gather (Pool.results (Scan.work files) size (lists.map Scan.ofPaths) schedule) := by
    intro size schedule
    rw [scanCaller, hlists]
    rfl
  have hnodup : lists.flatten.Nodup := by
    rw [hperm.nodup_iff, List.nodup_cons]
    constructor
    · intro hmain
      obtain ⟨way, -, -, heq, -⟩ := htree.mem_filesAt_iff.mp hmain
      apply module.main_ne_below way heq
    · apply htree.filesAt_nodup
  use .directory size entries, lists, hfind, hlists, hscan, hnodup, hmem
  constructor
  · intro way size' entries' hway hpath
    obtain heq | ⟨way', stem, content, hway', heq⟩ := (hmem _).mp hpath
    · apply module.main_ne_below way heq.symm
    · rw [Path.below_injective _ heq, hway'] at hway
      cases hway
  · intro other hother hcwd
    rw [← module.subtrees_congr hother hcwd, hlists]

/-- The entries of a directory of modules with a directory that is named like a module file and
holds one. -/
def nestedEntries : List (String × Entry) :=
  [("net.tf", .directory 4096 [("vpc.tf", .file .empty)]), ("notes.txt", .file .empty),
    ("dns.tf", .file .empty)]

/-- A workspace with some entries in the directory of modules. -/
def workspaceOf (entries : List (String × Entry)) : FileSystem :=
  ⟨.directory 4096 [("caller", .directory 4096 [("modules", .directory 4096 entries)])],
    ⟨.slash, []⟩⟩

theorem workspaceOf_nestedEntries_isTree :
  (workspaceOf nestedEntries).root.IsTree
  := by
  have hnet := @FileSystem.write_isTree ⟨.empty 4096, ⟨.slash, []⟩⟩ (Entry.empty_isTree _) 4096
    ["caller", "modules", "net.tf", "vpc.tf"] .empty
  have hnotes := FileSystem.write_isTree hnet 4096 ["caller", "modules", "notes.txt"] .empty
  apply FileSystem.write_isTree hnotes 4096 ["caller", "modules", "dns.tf"] .empty

theorem workspaceOf_nestedEntries_alike :
  (workspaceOf nestedEntries).root.Alike (workspaceOf nestedEntries.reverse).root
  := by
  have hroot : (Entry.directory 4096
      ([] ++ ("caller", .directory 4096 [("modules", .directory 4096 nestedEntries)]) :: [])).IsTree
    := workspaceOf_nestedEntries_isTree
  have hcaller : (Entry.directory 4096
      ([] ++ ("modules", .directory 4096 nestedEntries) :: [])).IsTree :=
    hroot.of_mem List.mem_cons_self
  have hmodules : (Entry.directory 4096 nestedEntries).IsTree := hcaller.of_mem List.mem_cons_self
  apply Entry.Alike.replace _ hroot
  apply Entry.Alike.replace _ hcaller
  apply Entry.Alike.of_perm hmodules (List.reverse_perm nestedEntries).symm

theorem subtrees_cover_modules_once_nested :
  (workspaceOf nestedEntries).root.IsTree
    ∧ (workspaceOf nestedEntries).isDirectory ⟨.none, ["caller", "modules"]⟩ = .ok true
    ∧ ∃ lists, subtrees ⟨⟨.none, []⟩, .caller⟩ (workspaceOf nestedEntries) = .ok lists
      ∧ lists.flatten.Nodup
      ∧ ⟨.none, ["caller", "modules", "net.tf", "vpc.tf"]⟩ ∈ lists.flatten
      ∧ ⟨.none, ["caller", "modules", "net.tf"]⟩ ∉ lists.flatten
      ∧ subtrees ⟨⟨.none, []⟩, .caller⟩ (workspaceOf nestedEntries.reverse) = .ok lists
  := by
  have hmodules : (workspaceOf nestedEntries).isDirectory ⟨.none, ["caller", "modules"]⟩
      = .ok true := by rfl
  use workspaceOf_nestedEntries_isTree, hmodules
  obtain ⟨modules, lists, hfind, hlists, -, hnodup, hmem, hdirectory, hother⟩ :=
    subtrees_cover_modules_once ⟨⟨.none, []⟩, .caller⟩ workspaceOf_nestedEntries_isTree hmodules
  obtain rfl := Except.ok.inj hfind
  use lists, hlists, hnodup
  constructor
  · apply (hmem _).mpr (Or.inr ⟨["net.tf"], "vpc", .empty, rfl, rfl⟩)
  · constructor
    · apply hdirectory ["net.tf"] 4096 [("vpc.tf", .file .empty)] rfl
    · apply hother (workspaceOf nestedEntries.reverse) workspaceOf_nestedEntries_alike rfl

end Module

end ReadmeAudit.Terraform
