import Mathlib.Tactic.Use
import ReadmeAudit.Files.Path
import ReadmeAudit.Proofs.Text.Blank

/-!
# Paths that texts denote

The paths that texts denote are the proper ones, whose names may all stand between two slashes. A
path is settled if it is proper, begins with a slash, and has neither a double point nor the
character of code zero. Making a proper path absolute in a settled directory settles it, unless it
has that character, and a settled path stays as it is.
-/

namespace ReadmeAudit.Files

open Text

/-- A text that may stand between two slashes as a name. -/
structure IsName (name : String) : Prop where
  /-- It is not empty. -/
  ne_empty : name ≠ ""
  /-- It is not a single point. -/
  ne_point : name ≠ "."
  /-- It has no slash. -/
  no_slash : '/' ∉ name.toList

/-- The first character of a name is not a slash. -/
theorem IsName.exists_eq_cons {name : String} (h : IsName name) :
  ∃ c rest, name.toList = c :: rest ∧ c ≠ '/'
  := by
  have hne : name.toList ≠ [] := by simpa using h.ne_empty
  obtain ⟨c, rest, hname⟩ := List.exists_cons_of_ne_nil hne
  use c, rest, hname
  rintro rfl
  apply h.no_slash
  rw [hname]
  apply List.mem_cons_self

/-- The beginning of a text is found before a name. -/
theorem Root.ofChars_text_append (root : Root) {c : Char} (h : c ≠ '/') (rest : List Char) :
  ofChars (root.text.toList ++ c :: rest) = root
  := by
  cases root with
  | none => simp [text, ofChars, h]
  | slash => simp [text, ofChars, h]
  | doubleSlash => simp [text, ofChars, h]

namespace Path

/-! ### Proper paths -/

/-- A path is proper if its names are. -/
def IsProper (path : Path) : Prop :=
  ∀ name ∈ path.names, IsName name

variable {path cwd : Path}

theorem ofText_isProper (text : String) :
  (ofText text).IsProper
  := by
  intro name hname
  rw [ofText, List.mem_filter, List.mem_map] at hname
  obtain ⟨⟨piece, hpiece, rfl⟩, hname⟩ := hname
  simp only [Bool.and_eq_true, bne_iff_ne] at hname
  use hname.1, hname.2
  rw [String.toList_ofList]
  apply not_mem_of_mem_splitChars hpiece

theorem toList_text (h : path.names ≠ []) :
  path.text.toList = path.root.text.toList ++ ['/'].intercalate (path.names.map String.toList)
  := by
  rw [text, if_neg (by simp [h]), String.toList_append, String.toList_intercalate]
  rfl

/-- The slashes at the beginning of a text give no names. -/
theorem filter_splitChars_root (root : Root) (chars : List Char) :
  ((splitChars '/' (root.text.toList ++ chars)).map String.ofList).filter
      (fun name => name != "" && name != ".")
    = ((splitChars '/' chars).map String.ofList).filter (fun name => name != "" && name != ".")
  := by
  cases root with
  | none => rfl
  | slash => simp [Root.text, splitChars]
  | doubleSlash => simp [Root.text, splitChars]

theorem IsProper.filter_names (h : path.IsProper) :
  path.names.filter (fun name => name != "" && name != ".") = path.names
  := by
  rw [List.filter_eq_self]
  intro name hname
  simp [(h name hname).ne_empty, (h name hname).ne_point]

/-- The names of a proper path are the pieces of its text. -/
theorem IsProper.splitChars_eq (h : path.IsProper) (hne : path.names ≠ []) :
  (splitChars '/' (['/'].intercalate (path.names.map String.toList))).map String.ofList = path.names
  := by
  have hpieces : ∀ piece ∈ path.names.map String.toList, '/' ∉ piece := by
    intro piece hpiece
    obtain ⟨name, hname, rfl⟩ := List.mem_map.mp hpiece
    apply (h name hname).no_slash
  rw [splitChars_eq_splitOn, List.splitOn_intercalate '/' hpieces (by simpa using hne),
    List.map_map]
  simp

/-- A proper path is what its text denotes. -/
theorem IsProper.ofText_text (h : path.IsProper) :
  ofText path.text = path
  := by
  obtain ⟨root, names⟩ := path
  cases names with
  | nil => cases root <;> rfl
  | cons first names =>
      have hsplit := h.splitChars_eq (List.cons_ne_nil first names)
      have hfilter := h.filter_names
      obtain ⟨c, rest, hfirst, hc⟩ := (h first List.mem_cons_self).exists_eq_cons
      obtain ⟨others, hothers⟩ : ∃ others,
          ['/'].intercalate ((first :: names).map String.toList) = c :: others := by
        cases names with
        | nil => simp [hfirst]
        | cons next names => simp [hfirst]
      rw [hothers] at hsplit
      rw [ofText, toList_text (List.cons_ne_nil first names), hothers,
        Root.ofChars_text_append root hc, filter_splitChars_root, hsplit, hfilter]

/-- The proper paths are those that texts stand for. -/
theorem isProper_iff :
  path.IsProper ↔ ∃ text, path = ofText text
  := by
  constructor
  · intro h
    use path.text
    rw [h.ofText_text]
  · rintro ⟨text, rfl⟩
    apply ofText_isProper text

/-! ### Double points -/

theorem normalize_eq_append {names : List String} (h : ".." ∉ names) (passed : List String) :
  normalize passed names = passed.reverse ++ names
  := by
  induction names generalizing passed with
  | nil => rw [normalize, List.append_nil]
  | cons name names ih =>
      rw [List.mem_cons, not_or] at h
      rw [normalize, if_neg (Ne.symm h.1), ih h.2, List.reverse_cons, List.append_assoc]
      rfl

/-- No names are made up when double points are removed. -/
theorem mem_of_mem_normalize {name : String} {passed names : List String}
    (h : name ∈ normalize passed names) :
  name ∈ passed ∨ name ∈ names
  := by
  induction names generalizing passed with
  | nil =>
      rw [normalize, List.mem_reverse] at h
      apply Or.inl h
  | cons first names ih =>
      rw [normalize] at h
      split at h
      · rcases ih h with h | h
        · apply Or.inl (List.mem_of_mem_tail h)
        · apply Or.inr (List.mem_cons_of_mem first h)
      · rcases ih h with h | h
        · rcases List.mem_cons.mp h with rfl | h
          · apply Or.inr List.mem_cons_self
          · apply Or.inl h
        · apply Or.inr (List.mem_cons_of_mem first h)

/-- The path is absolute and has no double points. -/
structure IsNormal (path : Path) : Prop where
  /-- The path begins with a slash. -/
  root_eq : path.root = .slash
  /-- No name is a double point. -/
  not_mem : ".." ∉ path.names

theorem not_mem_normalize {passed : List String} (h : ".." ∉ passed) (names : List String) :
  ".." ∉ normalize passed names
  := by
  induction names generalizing passed with
  | nil =>
      rw [normalize, List.mem_reverse]
      apply h
  | cons name names ih =>
      rw [normalize]
      split
      · apply ih
        intro hmem
        apply h (List.mem_of_mem_tail hmem)
      · next hname =>
        apply ih
        intro hmem
        rcases List.mem_cons.mp hmem with rfl | hmem
        · apply hname rfl
        · apply h hmem

theorem resolve_isNormal (path cwd : Path) :
  (path.resolve cwd).IsNormal
  := by
  constructor
  · rfl
  · apply not_mem_normalize
    rintro ⟨⟩

theorem IsNormal.parent {path : Path} (h : path.IsNormal) :
  path.parent.IsNormal
  := by
  constructor
  · apply h.root_eq
  · intro hmem
    apply h.not_mem (List.dropLast_subset _ hmem)

/-- The names of an absolute path are those of the path or of the working directory. -/
theorem mem_names_resolve {name : String} (h : name ∈ (path.resolve cwd).names) :
  name ∈ cwd.names ∨ name ∈ path.names
  := by
  rw [resolve] at h
  have hnames := (mem_of_mem_normalize h).resolve_left List.not_mem_nil
  split at hnames
  · apply Or.inr hnames
  · apply List.mem_append.mp hnames

theorem IsNormal.resolve_eq (h : path.IsNormal) (cwd : Path) :
  path.resolve cwd = path
  := by
  obtain ⟨root, names⟩ := path
  obtain rfl : root = .slash := h.root_eq
  have hnames : normalize [] names = names := normalize_eq_append h.not_mem []
  rw [resolve, if_pos (by rfl), hnames]

/-! ### Settled paths -/

/-- The path is normal and proper, and can be handed to the system. -/
structure IsSettled (path : Path) : Prop extends IsNormal path where
  /-- The names are names. -/
  proper : path.IsProper
  /-- No name has the character of code zero. -/
  no_zero : ∀ name ∈ path.names, Char.ofNat 0 ∉ name.toList

theorem IsSettled.parent (h : path.IsSettled) :
  path.parent.IsSettled
  := by
  constructor
  · apply h.toIsNormal.parent
  · intro name hname
    apply h.proper name (List.dropLast_subset _ hname)
  · intro name hname
    apply h.no_zero name (List.dropLast_subset _ hname)

/-- The text of a path has the character of code zero if one of its names has it. -/
theorem contains_zero_iff :
  path.text.toList.contains (Char.ofNat 0) = true
    ↔ ∃ name ∈ path.names, Char.ofNat 0 ∈ name.toList
  := by
  rw [List.contains_iff_mem]
  by_cases hnames : path.names = []
  · obtain ⟨root, names⟩ := path
    obtain rfl : names = [] := hnames
    cases root <;> simp [text, Root.text]
  · have hroot : Char.ofNat 0 ∉ path.root.text.toList := by
      cases path.root with
      | none => decide
      | slash => decide
      | doubleSlash => decide
    rw [toList_text hnames, List.mem_append, or_iff_right hroot, mem_intercalate_iff (by decide)]
    simp

/-- A proper path is settled by making it absolute in a settled directory, if it does not have the
character of code zero. -/
theorem IsProper.resolve_isSettled (h : path.IsProper) (hcwd : cwd.IsSettled)
    (hzero : ¬ path.text.toList.contains (Char.ofNat 0) = true) :
  (path.resolve cwd).IsSettled
  := by
  rw [contains_zero_iff] at hzero
  constructor
  · apply resolve_isNormal
  · intro name hname
    rcases mem_names_resolve hname with hname | hname
    · apply hcwd.proper name hname
    · apply h name hname
  · intro name hname hmem
    rcases mem_names_resolve hname with hname | hname
    · apply hcwd.no_zero name hname hmem
    · apply hzero ⟨name, hname, hmem⟩

end Path

end ReadmeAudit.Files
