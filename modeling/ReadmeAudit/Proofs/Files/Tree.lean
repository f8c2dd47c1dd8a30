import Mathlib.Data.List.Forall2
import Mathlib.Data.List.Nodup
import Mathlib.Tactic.Use
import ReadmeAudit.Files.Tree
import ReadmeAudit.Proofs.Pairs

/-!
# Trees of files

An entry is a tree if no directory in it lists a name twice, which every change of a file system
keeps. `Entry.at?` goes down a tree along the names of a way. The files that `Entry.filesAt` lists
are those that some way leads to, each once.

Two trees are alike if the same ways lead to directories in them, and the same ways to files: they
may list their entries in different orders. A path leads to like trees in like trees, and the files
below like trees are the same when they are put in the order of paths, which is linear.
-/

namespace ReadmeAudit.Files

/-! ### The order of paths -/

namespace Path

/-- Names are compared like lists. -/
theorem namesLe_iff {names others : List String} :
  namesLe names others = true ↔ List.le names others
  := by
  induction names generalizing others with
  | nil => apply iff_of_true rfl (List.nil_le others)
  | cons name names ih =>
      cases others with
      | nil =>
          apply iff_of_false Bool.false_ne_true
          intro h
          apply h List.Lex.nil
      | cons other others =>
          apply Iff.trans _ List.cons_le_cons_iff.symm
          rw [namesLe]
          split
          · next heq =>
            rw [ih]
            constructor
            · intro h
              apply Or.inr ⟨heq, h⟩
            · intro h
              apply h.elim _ And.right
              intro hlt
              rw [heq] at hlt
              apply absurd hlt (String.lt_irrefl other)
          · next hne =>
            rw [decide_eq_true_iff]
            constructor
            · intro h
              by_contra hlt
              apply hne
              apply String.le_antisymm h
              apply String.not_lt.mp
              intro h'
              apply hlt (Or.inl h')
            · intro h
              apply String.not_lt.mp
              apply String.lt_asymm (h.resolve_right _)
              intro heq
              apply hne heq.1

theorem le_total (path other : Path) :
  (path.le other || other.le path) = true
  := by
  rw [Bool.or_eq_true, le, le, namesLe_iff, namesLe_iff]
  apply List.le_total

theorem le_trans (path other third : Path)
    (h : path.le other = true) (hother : other.le third = true) :
  path.le third = true
  := by
  rw [le, namesLe_iff] at h hother ⊢
  apply List.le_trans h hother

theorem le_antisymm {path other : Path}
    (h : path.le other = true) (hother : other.le path = true) :
  path = other
  := by
  rw [le, namesLe_iff] at h hother
  obtain ⟨hroot, hnames⟩ := List.cons.inj (List.le_antisymm h hother)
  have htext : Function.Injective Root.text := by
    intro root root'
    cases root <;> cases root' <;> decide
  obtain ⟨root, names⟩ := path
  obtain ⟨root', names'⟩ := other
  apply congrArg₂ Path.mk (htext hroot) hnames

theorem sort_perm (paths : List Path) :
  (sort paths).Perm paths
  := List.mergeSort_perm paths le

/-- Lists of the same paths are the same in order. -/
theorem sort_eq_of_perm {paths others : List Path} (h : paths.Perm others) :
  sort paths = sort others
  := by
  have hperm : (sort paths).Perm (sort others) :=
    ((sort_perm paths).trans h).trans (sort_perm others).symm
  apply hperm.eq_of_pairwise (fun _ _ _ _ => le_antisymm)
  · apply List.pairwise_mergeSort le_trans le_total
  · apply List.pairwise_mergeSort le_trans le_total

/-- The path of what a way leads to from a directory. -/
def below (path : Path) (way : List String) : Path :=
  ⟨path.root, path.names ++ way⟩

@[simp]
theorem below_nil (path : Path) :
  path.below [] = path
  := by
  rw [below, List.append_nil]

@[simp]
theorem below_child (path : Path) (name : String) (way : List String) :
  (path.child name).below way = path.below (name :: way)
  := by
  simp only [below, child, List.append_assoc, List.singleton_append]

theorem child_eq_below (path : Path) (name : String) :
  path.child name = path.below [name]
  := rfl

theorem below_injective (path : Path) :
  Function.Injective path.below
  := by
  intro way other h
  apply List.append_cancel_left (congrArg Path.names h)

@[simp]
theorem name_below_concat (path : Path) (way : List String) (name : String) :
  (path.below (way ++ [name])).name = name
  := by
  simp [Path.name, below, List.getLastD_eq_getLast?]

end Path

/-! ### Ways down a tree -/

namespace Entry

/-- The entry at the end of a way down. -/
def at? : Entry → List String → Option Entry
  | entry, [] => some entry
  | entry, name :: way => (entry.entries.lookup name).bind fun next => next.at? way

@[simp]
theorem at?_cons (entry : Entry) (name : String) (way : List String) :
  entry.at? (name :: way) = (entry.entries.lookup name).bind fun next => next.at? way
  := rfl

/-- An entry is a tree if no directory in it lists a name twice. -/
inductive IsTree : Entry → Prop
  | file (content : ByteArray) : IsTree (.file content)
  | directory {size : Nat} {entries : List (String × Entry)}
      (hnames : (entries.map Prod.fst).Nodup) (hentries : ∀ pair ∈ entries, IsTree pair.2) :
      IsTree (.directory size entries)

variable {entry other : Entry} {p : String → Bool} {path : Path}

theorem IsTree.names_nodup (h : entry.IsTree) :
  (entry.entries.map Prod.fst).Nodup
  := by
  cases h with
  | file content => apply List.nodup_nil
  | directory hnames hentries => apply hnames

theorem IsTree.of_mem (h : entry.IsTree) {pair : String × Entry} (hpair : pair ∈ entry.entries) :
  pair.2.IsTree
  := by
  cases h with
  | file content => cases hpair
  | directory hnames hentries => apply hentries pair hpair

theorem IsTree.lookup_eq_some_iff (h : entry.IsTree) {name : String} {next : Entry} :
  entry.entries.lookup name = some next ↔ (name, next) ∈ entry.entries
  := ⟨Pairs.mem_of_lookup, Pairs.lookup_eq_some_of_mem h.names_nodup⟩

/-- The names of the entries of a directory that are accepted by name and kind. -/
def names (accepts : String → Bool → Bool) (entry : Entry) : List String :=
  (entry.entries.filter fun pair => accepts pair.1 pair.2.isDirectory).map Prod.fst

theorem IsTree.mem_names_iff (h : entry.IsTree) {accepts : String → Bool → Bool} {name : String} :
  name ∈ entry.names accepts
    ↔ ∃ next, entry.entries.lookup name = some next ∧ accepts name next.isDirectory = true
  := by
  simp only [h.lookup_eq_some_iff, names, List.mem_map, List.mem_filter, Prod.exists,
    exists_eq_right, exists_and_right]

theorem IsTree.nodup_names (h : entry.IsTree) {accepts : String → Bool → Bool} :
  (entry.names accepts).Nodup
  := h.names_nodup.sublist (List.filter_sublist.map _)

/-! ### The files of a tree -/

theorem filesIn_eq_flatMap (entries : List (String × Entry)) :
  filesIn p path entries = entries.flatMap fun pair => filesAt p (path.child pair.1) pair.2
  := by
  induction entries with
  | nil => rw [filesIn, List.flatMap_nil]
  | cons pair rest ih => rw [filesIn, filesOf, ih, List.flatMap_cons]

/-- The files of a tree are what the ways down that end at a file lead to. -/
theorem IsTree.mem_filesAt_iff (h : entry.IsTree) {file : Path} :
  file ∈ filesAt p path entry
    ↔ ∃ way content, entry.at? way = some (.file content) ∧ file = path.below way
      ∧ p file.name = true
  := by
  induction h generalizing path with
  | file content =>
      constructor
      · intro hfile
        rw [filesAt] at hfile
        split at hfile
        · next hname =>
          obtain rfl := List.mem_singleton.mp hfile
          use [], content, rfl, (file.below_nil).symm
        · cases hfile
      · rintro ⟨way, content', hway, rfl, hname⟩
        cases way with
        | nil =>
            rw [Path.below_nil] at hname ⊢
            rw [filesAt, if_pos hname]
            apply List.mem_singleton_self
        | cons name way => cases hway
  | @directory size entries hnames hentries ih =>
      have htree : (Entry.directory size entries).IsTree := .directory hnames hentries
      rw [filesAt, filesIn_eq_flatMap, List.mem_flatMap]
      constructor
      · rintro ⟨⟨name, next⟩, hpair, hfile⟩
        obtain ⟨way, content, hway, rfl, hname⟩ := (ih _ hpair).mp hfile
        use name :: way, content
        rw [at?_cons, htree.lookup_eq_some_iff.mpr hpair]
        rw [Path.below_child] at hname ⊢
        use hway, rfl, hname
      · rintro ⟨way, content, hway, rfl, hname⟩
        cases way with
        | nil => cases hway
        | cons name way =>
            rw [at?_cons] at hway
            obtain ⟨next, hlookup, hnext⟩ := Option.bind_eq_some_iff.mp hway
            have hpair := htree.lookup_eq_some_iff.mp hlookup
            use (name, next), hpair
            apply (ih _ hpair).mpr
            rw [← Path.below_child] at hname ⊢
            use way, content, hnext, rfl

/-- No file of a tree is listed twice. -/
theorem IsTree.filesAt_nodup (h : entry.IsTree) :
  (filesAt p path entry).Nodup
  := by
  induction h generalizing path with
  | file content =>
      rw [filesAt]
      split
      · apply List.nodup_singleton
      · apply List.nodup_nil
  | directory hnames hentries ih =>
      rw [filesAt, filesIn_eq_flatMap, List.nodup_flatMap]
      use fun pair hpair => ih pair hpair
      -- The paths below two entries differ in the name of the entry.
      apply (List.pairwise_map.mp hnames).imp_of_mem
      intro first second hfirst hsecond hne file hfile hfile'
      obtain ⟨way, -, -, rfl, -⟩ := (hentries first hfirst).mem_filesAt_iff.mp hfile
      obtain ⟨way', -, -, heq, -⟩ := (hentries second hsecond).mem_filesAt_iff.mp hfile'
      rw [Path.below_child, Path.below_child] at heq
      apply hne (List.cons.inj (path.below_injective heq)).1

/-! ### Like trees -/

/-- Two trees are alike if the same ways lead to directories in them, and the same ways to files. -/
structure Alike (entry other : Entry) : Prop where
  /-- The first is a tree. -/
  isTree : entry.IsTree
  /-- So is the second. -/
  isTree_other : other.IsTree
  /-- Each way leads to the same kind of entry, or to nothing. -/
  kind_eq : ∀ way, (entry.at? way).map isDirectory = (other.at? way).map isDirectory

namespace Alike

theorem refl (h : entry.IsTree) :
  Alike entry entry
  := ⟨h, h, fun _ => rfl⟩

theorem symm (h : Alike entry other) :
  Alike other entry
  := ⟨h.isTree_other, h.isTree, fun way => (h.kind_eq way).symm⟩

theorem isDirectory_eq (h : Alike entry other) :
  entry.isDirectory = other.isDirectory
  := Option.some.inj (h.kind_eq [])

/-- What a name leads to in a tree is like what it leads to in a like one. -/
theorem lookup (h : Alike entry other) {name : String} {next : Entry}
    (hnext : entry.entries.lookup name = some next) :
  ∃ next', other.entries.lookup name = some next' ∧ Alike next next'
  := by
  have hkind : ∀ way, (next.at? way).map isDirectory
      = ((other.entries.lookup name).bind fun next' => next'.at? way).map isDirectory := by
    intro way
    rw [← at?_cons, ← h.kind_eq, at?_cons, hnext]
    rfl
  cases hlookup : other.entries.lookup name with
  | none =>
      rw [hlookup] at hkind
      cases hkind []
  | some next' =>
      rw [hlookup] at hkind
      use next', rfl, h.isTree.of_mem (Pairs.mem_of_lookup hnext),
        h.isTree_other.of_mem (Pairs.mem_of_lookup hlookup)
      apply hkind

theorem lookup_eq_none (h : Alike entry other) {name : String}
    (hnone : entry.entries.lookup name = none) :
  other.entries.lookup name = none
  := by
  rw [Option.eq_none_iff_forall_ne_some]
  intro next hnext
  obtain ⟨next', hnext', -⟩ := h.symm.lookup hnext
  rw [hnone] at hnext'
  cases hnext'

theorem exists_file (h : Alike entry other) {way : List String} {content : ByteArray}
    (hway : entry.at? way = some (.file content)) :
  ∃ content', other.at? way = some (.file content')
  := by
  have hkind := h.kind_eq way
  rw [hway] at hkind
  obtain ⟨found, hfound, hfile⟩ := Option.map_eq_some_iff.mp hkind.symm
  cases found with
  | file content' => use content', hfound
  | directory size entries => cases hfile

/-- A tree is like the tree with its entries in another order. -/
theorem of_perm {size size' : Nat} {entries entries' : List (String × Entry)}
    (h : (Entry.directory size entries).IsTree) (hperm : entries.Perm entries') :
  Alike (.directory size entries) (.directory size' entries')
  := by
  have hother : (Entry.directory size' entries').IsTree := by
    apply IsTree.directory ((hperm.map Prod.fst).nodup_iff.mp h.names_nodup)
    intro pair hpair
    apply h.of_mem (hperm.mem_iff.mpr hpair)
  have hlookup : ∀ name, entries.lookup name = entries'.lookup name := by
    intro name
    ext next
    apply h.lookup_eq_some_iff.trans (hperm.mem_iff.trans hother.lookup_eq_some_iff.symm)
  use h, hother
  intro way
  cases way with
  | nil => rfl
  | cons name way =>
      rw [at?_cons, at?_cons, Entry.entries, Entry.entries, hlookup]

/-- A tree is like the tree with a like one in place of one of its entries. -/
theorem replace (h : Alike entry other) {size size' : Nat} {name : String}
    {before after : List (String × Entry)}
    (htree : (Entry.directory size (before ++ (name, entry) :: after)).IsTree) :
  Alike (.directory size (before ++ (name, entry) :: after))
    (.directory size' (before ++ (name, other) :: after))
  := by
  have hother : (Entry.directory size' (before ++ (name, other) :: after)).IsTree := by
    have hnames := htree.names_nodup
    simp only [Entry.entries, List.map_append, List.map_cons] at hnames
    apply IsTree.directory
    · simpa only [List.map_append, List.map_cons] using hnames
    · intro pair hpair
      obtain hbefore | hpair := List.mem_append.mp hpair
      · apply htree.of_mem (List.mem_append_left _ hbefore)
      · obtain rfl | hafter := List.mem_cons.mp hpair
        · apply h.isTree_other
        · apply htree.of_mem (List.mem_append_right _ (List.mem_cons_of_mem _ hafter))
  use htree, hother
  intro way
  cases way with
  | nil => rfl
  | cons first way =>
      rw [at?_cons, at?_cons]
      by_cases hfirst : first = name
      · subst hfirst
        rw [htree.lookup_eq_some_iff.mpr (List.mem_append_right _ List.mem_cons_self),
          hother.lookup_eq_some_iff.mpr (List.mem_append_right _ List.mem_cons_self)]
        apply h.kind_eq way
      · have hlookup : (before ++ (name, entry) :: after).lookup first
            = (before ++ (name, other) :: after).lookup first := by
          rw [List.lookup_append, List.lookup_append, List.lookup_cons, List.lookup_cons,
            beq_eq_false_iff_ne.mpr hfirst]
        rw [Entry.entries, Entry.entries, hlookup]

theorem mem_names (h : Alike entry other) {accepts : String → Bool → Bool} {name : String}
    (hname : name ∈ entry.names accepts) :
  name ∈ other.names accepts
  := by
  obtain ⟨next, hnext, haccepts⟩ := h.isTree.mem_names_iff.mp hname
  obtain ⟨next', hnext', halike⟩ := h.lookup hnext
  rw [halike.isDirectory_eq] at haccepts
  apply h.isTree_other.mem_names_iff.mpr ⟨next', hnext', haccepts⟩

/-- Like trees have entries of the same names and kinds. -/
theorem names_perm (h : Alike entry other) (accepts : String → Bool → Bool) :
  (entry.names accepts).Perm (other.names accepts)
  := by
  rw [List.perm_ext_iff_of_nodup h.isTree.nodup_names h.isTree_other.nodup_names]
  intro name
  apply Iff.intro h.mem_names h.symm.mem_names

/-- In order, the files of like trees are the same. -/
theorem sort_filesAt (h : Alike entry other) :
  Path.sort (filesAt p path entry) = Path.sort (filesAt p path other)
  := by
  apply Path.sort_eq_of_perm
  rw [List.perm_ext_iff_of_nodup h.isTree.filesAt_nodup h.isTree_other.filesAt_nodup]
  intro file
  rw [h.isTree.mem_filesAt_iff, h.isTree_other.mem_filesAt_iff]
  constructor
  · rintro ⟨way, content, hway, hfile⟩
    obtain ⟨content', hway'⟩ := h.exists_file hway
    use way, content', hway'
  · rintro ⟨way, content, hway, hfile⟩
    obtain ⟨content', hway'⟩ := h.symm.exists_file hway
    use way, content', hway'

end Alike

/-! ### Changes of trees -/

theorem empty_isTree (size : Nat) :
  (empty size).IsTree
  := by
  constructor
  · apply List.nodup_nil
  · rintro pair ⟨⟩

theorem orMade_isTree (made : Nat) {old : Option Entry} (h : ∀ entry ∈ old, IsTree entry) :
  (orMade made old).IsTree
  := by
  unfold orMade
  split
  · apply h _ rfl
  · apply empty_isTree

/-- A change at the end of a way makes a tree of a tree if the change itself does. -/
theorem alter_isTree {made : Nat} {change : Option Entry → Option Entry}
    (hchange : ∀ old, (∀ entry ∈ old, IsTree entry) → ∀ entry ∈ change old, IsTree entry)
    (way : List String) {old : Option Entry} (h : ∀ entry ∈ old, IsTree entry) :
  ∀ entry ∈ alter made change way old, IsTree entry
  := by
  induction way generalizing old with
  | nil => apply hchange old h
  | cons name way ih =>
      have htree := orMade_isTree made h
      intro entry hentry
      rw [alter] at hentry
      split at hentry
      · next new hnew =>
        have hnext : new.IsTree := by
          apply ih _ new hnew
          intro next hnext
          apply htree.of_mem (Pairs.mem_of_lookup hnext)
        obtain rfl := Option.some.inj hentry
        apply IsTree.directory (Pairs.put_names_nodup htree.names_nodup)
        intro pair hpair
        rcases Pairs.mem_put hpair with rfl | hold
        · apply hnext
        · apply htree.of_mem hold
      · obtain rfl := Option.some.inj hentry
        apply IsTree.directory (htree.names_nodup.sublist (List.filter_sublist.map _))
        intro pair hpair
        apply htree.of_mem (List.mem_filter.mp hpair).1

end Entry

namespace FileSystem

variable {files other : FileSystem}

theorem alter_isTree {made : Nat} {change : Option Entry → Option Entry}
    (hchange : ∀ old, (∀ entry ∈ old, entry.IsTree) → ∀ entry ∈ change old, entry.IsTree)
    (way : List String) (h : files.root.IsTree) :
  (files.alter made change way).root.IsTree
  := by
  have hroot : ∀ entry ∈ some files.root, entry.IsTree := by
    rintro entry ⟨⟩
    apply h
  rw [alter]
  cases hnew : Entry.alter made change way (some files.root) with
  | none => apply Entry.empty_isTree
  | some entry => apply Entry.alter_isTree hchange way hroot entry hnew

/-- With a file that is written, a tree stays one. -/
theorem write_isTree (h : files.root.IsTree) (made : Nat) (way : List String)
    (content : ByteArray) :
  (files.write made way content).root.IsTree
  := by
  apply alter_isTree _ way h
  rintro old hold entry ⟨⟩
  apply Entry.IsTree.file

/-! ### What paths lead to in like trees -/

/-- Two outcomes are alike if they are the same failure or like trees. -/
inductive FoundAlike {ε : Type} : Except ε Entry → Except ε Entry → Prop
  | error (failure : ε) : FoundAlike (.error failure) (.error failure)
  | ok {entry other : Entry} (h : entry.Alike other) : FoundAlike (.ok entry) (.ok other)

theorem follow_alike {passed passed' : List Entry} (h : List.Forall₂ Entry.Alike passed passed')
    (way : List String) :
  FoundAlike (follow passed way) (follow passed' way)
  := by
  induction way generalizing passed passed' with
  | nil =>
      cases h with
      | nil => apply FoundAlike.error
      | cons hhere habove => apply FoundAlike.ok hhere
  | cons name way ih =>
      cases h with
      | nil => apply FoundAlike.error
      | @cons here here' above above' hhere habove =>
          have hkind := hhere.isDirectory_eq
          cases here with
          | file content =>
              cases here' with
              | file content' => apply FoundAlike.error
              | directory size' entries' => cases hkind
          | directory size entries =>
              cases here' with
              | file content' => cases hkind
              | directory size' entries' =>
                  rw [follow, follow]
                  split
                  · apply ih
                    cases habove with
                    | nil => apply List.Forall₂.cons hhere List.Forall₂.nil
                    | cons hfirst hrest => apply List.Forall₂.cons hfirst hrest
                  · split
                    · apply FoundAlike.error
                    · cases hlookup : entries.lookup name with
                      | none =>
                          have hlookup' : entries'.lookup name = none :=
                            hhere.lookup_eq_none hlookup
                          rw [hlookup']
                          apply FoundAlike.error
                      | some next =>
                          obtain ⟨next', hlookup', hnext⟩ := hhere.lookup hlookup
                          have hlookup' : entries'.lookup name = some next' := hlookup'
                          rw [hlookup']
                          apply ih (.cons hnext (.cons hhere habove))

theorem find_alike (hroot : files.root.Alike other.root) (hcwd : files.cwd = other.cwd)
    (path : Path) :
  FoundAlike (files.find path) (other.find path)
  := by
  rw [find, find, hcwd]
  split
  · apply FoundAlike.error
  · have hfollow := follow_alike (.cons hroot .nil)
      (if path.isAbsolute then path.names else other.cwd.names ++ path.names)
    dsimp only
    generalize follow [files.root] _ = found at hfollow ⊢
    generalize follow [other.root] _ = found' at hfollow ⊢
    cases hfollow with
    | error reason => apply FoundAlike.error
    | ok halike => apply FoundAlike.ok halike

/-- What a path leads to in a tree is a tree. -/
theorem find_isTree (h : files.root.IsTree) {path : Path} {entry : Entry}
    (hfind : files.find path = .ok entry) :
  entry.IsTree
  := by
  have hfound := find_alike (.refl h) rfl path
  rw [hfind] at hfound
  cases hfound with
  | ok halike => apply halike.isTree

theorem test_eq_true_iff {p : Entry → Bool} {path : Path} :
  files.test p path = .ok true ↔ ∃ entry, files.find path = .ok entry ∧ p entry = true
  := by
  rw [test]
  cases files.find path with
  | ok entry => simp
  | error error =>
      cases error with
      | zeroCharacter => simp
      | refused fault =>
          dsimp only
          split
          · simp
          · simp

/-- In like trees, the same paths lead to directories. -/
theorem isDirectory_eq_of_alike (hroot : files.root.Alike other.root) (hcwd : files.cwd = other.cwd)
    (path : Path) :
  files.isDirectory path = other.isDirectory path
  := by
  have hfound := find_alike hroot hcwd path
  rw [isDirectory, isDirectory, test, test]
  generalize files.find path = found at hfound ⊢
  generalize other.find path = found' at hfound ⊢
  cases hfound with
  | error failure => rfl
  | ok halike => apply congrArg Except.ok halike.isDirectory_eq

end FileSystem

end ReadmeAudit.Files
