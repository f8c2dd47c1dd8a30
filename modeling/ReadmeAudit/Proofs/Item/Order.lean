import Mathlib.Data.List.Sort
import ReadmeAudit.Proofs.Item.Reconciliation

/-!
# Reconciliation without regard to order

What a comparison reports depends on the two collections of names only. `keyOf name` is a name as it
is compared, and `keySet names` is the set of the keys of the names in a list that are not blank.
Whether an item of a key is left out of the index in favour of a qualified one, and whether the
other side has it, is decided by the key sets, and the keys that are reported are in strictly
increasing order. So lists with the same key sets give the same reports, in the same order. The
spelling of a reported item is the first one in the list, so that the wording is the same if the
lists spell the names alike. The two sides play the same part.
-/

namespace ReadmeAudit

open Text

/-! ### Keys -/

/-- The key of a name: the name in lower case, without surrounding blanks. -/
def keyOf (name : String) : String :=
  lower (strip name)

/-- The keys of the names of a list that are not blank. -/
def keySet (names : List String) : Set String :=
  {key | ∃ name ∈ names, isBlankText name = false ∧ keyOf name = key}

/-- Two lists have the same keys if each name of one has a name of the same key in the other. -/
theorem keySet_eq_iff {names others : List String} :
  keySet names = keySet others
    ↔ (∀ name ∈ names, isBlankText name = false →
        ∃ other ∈ others, isBlankText other = false ∧ keyOf other = keyOf name)
      ∧ ∀ other ∈ others, isBlankText other = false →
        ∃ name ∈ names, isBlankText name = false ∧ keyOf name = keyOf other
  := by
  rw [Set.Subset.antisymm_iff]
  apply and_congr
  · constructor
    · intro h name hname hblank
      apply h ⟨name, hname, hblank, rfl⟩
    · rintro h _ ⟨name, hname, hblank, rfl⟩
      apply h name hname hblank
  · constructor
    · intro h other hother hblank
      apply h ⟨other, hother, hblank, rfl⟩
    · rintro h _ ⟨other, hother, hblank, rfl⟩
      apply h other hother hblank

instance (names others : List String) : Decidable (keySet names = keySet others) :=
  decidable_of_iff _ keySet_eq_iff.symm

/-- The base that a key gives. -/
def keyBase (key : String) : String :=
  strip (before '.' key)

/-- Whether a key is that of a qualified name. -/
def keyQualified (key : String) : Bool :=
  key.toList.contains '.'

theorem mem_keySet {names : List String} {name : String} (h : name ∈ names)
    (hblank : isBlankText name = false) :
  keyOf name ∈ keySet names
  := ⟨name, h, hblank, rfl⟩

theorem mem_baseSet_iff {names : List String} {base : String} :
  base ∈ baseSet names ↔ ∃ key ∈ keySet names, keyBase key = base
  := by
  constructor
  · rintro ⟨name, hname, hblank, rfl⟩
    use keyOf name, mem_keySet hname hblank
    rfl
  · rintro ⟨_, ⟨name, hname, hblank, rfl⟩, rfl⟩
    use name, hname, hblank
    rfl

/-- The bases of a list of names are determined by the keys. -/
theorem baseSet_eq_of_keySet_eq {names others : List String} (h : keySet names = keySet others) :
  baseSet names = baseSet others
  := by
  ext base
  rw [mem_baseSet_iff, mem_baseSet_iff, h]

namespace Item

/-- A name that is not blank has an item, whose key is that of the name. -/
theorem exists_ofName? {name : String} (h : isBlankText name = false) :
  ∃ item, ofName? name = some item ∧ item.spelling = strip name ∧ item.key = keyOf name
  := by
  use ⟨strip name, keyOf name, baseOf name, keyQualified (keyOf name)⟩
  constructor
  · apply ofName?_eq_some_iff.mpr ⟨h, rfl⟩
  · constructor
    · rfl
    · rfl

theorem eq_of_ofName? {name : String} {item : Item} (h : ofName? name = some item) :
  isBlankText name = false ∧ item.spelling = strip name ∧ item.key = keyOf name
  := by
  obtain ⟨hblank, rfl⟩ := ofName?_eq_some_iff.mp h
  use hblank, rfl
  rfl

theorem IsProper.key_eq {item : Item} (h : item.IsProper) :
  item.key = keyOf item.spelling
  := (eq_of_ofName? h).2.2

theorem IsProper.strip_spelling {item : Item} (h : item.IsProper) :
  strip item.spelling = item.spelling
  := (eq_of_ofName? h).2.1.symm

theorem IsProper.lower_spelling {item : Item} (h : item.IsProper) :
  lower item.spelling = item.key
  := by
  rw [h.key_eq, keyOf, h.strip_spelling]

theorem IsProper.base_eq_keyBase {item : Item} (h : item.IsProper) :
  item.base = keyBase item.key
  := by
  rw [h.key_eq]
  apply h.base_eq

theorem IsProper.qualified_eq {item : Item} (h : item.IsProper) :
  item.qualified = keyQualified item.key
  := by
  obtain ⟨-, heq⟩ := ofName?_eq_some_iff.mp h
  have hqualified := congrArg qualified heq
  dsimp only at hqualified
  rw [keyQualified, h.key_eq, keyOf]
  apply hqualified

/-- The spelling determines the item. -/
theorem IsProper.eq_of_spelling_eq {item other : Item} (h : item.IsProper) (h' : other.IsProper)
    (hspelling : item.spelling = other.spelling) :
  item = other
  := by
  rw [IsProper, hspelling] at h
  rw [IsProper, h] at h'
  apply Option.some.inj h'

end Item

/-! ### Keys of an index -/

/-- A key survives among others if it is that of a qualified name or no qualified name has its
base. -/
def Survives (keys : Set String) (key : String) : Prop :=
  key ∈ keys ∧ (keyQualified key = true
    ∨ ∀ other ∈ keys, keyQualified other = true → keyBase other ≠ keyBase key)

namespace Index

/-- The keys of an index. -/
def keys (index : Index) : List String :=
  index.entries.map (·.key)

@[simp]
theorem mem_keys_iff {index : Index} {key : String} :
  key ∈ index.keys ↔ ∃ item ∈ index.entries, item.key = key
  := List.mem_map

/-- Counting items with the same key once loses no key. -/
theorem mem_keys_unpruned {names : List String} {key : String} :
  key ∈ (unpruned names).keys ↔ key ∈ keySet names
  := by
  rw [mem_keys_iff]
  constructor
  · rintro ⟨item, hitem, rfl⟩
    obtain ⟨name, hname, hitem⟩ := List.mem_filterMap.mp (mem_of_mem_distinctBy hitem)
    obtain ⟨hblank, -, hkey⟩ := Item.eq_of_ofName? hitem
    rw [hkey]
    apply mem_keySet hname hblank
  · rintro ⟨name, hname, hblank, rfl⟩
    obtain ⟨item, hitem, -, hkey⟩ := Item.exists_ofName? hblank
    obtain ⟨kept, hkept, heq⟩ : ∃ kept ∈ (unpruned names).entries, kept.key = item.key :=
      exists_mem_distinctBy (List.mem_filterMap.mpr ⟨name, hname, hitem⟩)
    use kept, hkept
    rw [heq, hkey]

theorem mem_entries_ofNames_iff {names : List String} {item : Item} :
  item ∈ (ofNames names).entries
    ↔ item ∈ (unpruned names).entries ∧ Survives (keySet names) item.key
  := by
  rw [ofNames, prune, List.mem_filter, unpruned]
  apply and_congr_right
  intro hitem
  have hproper := unpruned_isProper names item hitem
  have hkey := mem_keys_unpruned.mp (mem_keys_iff.mpr ⟨item, hitem, rfl⟩)
  rw [Survives, and_iff_right hkey, Bool.or_eq_true, Bool.not_eq_true', List.any_eq_false,
    hproper.qualified_eq]
  apply or_congr_right
  constructor
  · intro h other hother hqualified hbase
    obtain ⟨entry, hentry, rfl⟩ := mem_keys_iff.mp (mem_keys_unpruned.mpr hother)
    have hentryProper := unpruned_isProper names entry hentry
    apply h entry hentry
    rw [Bool.and_eq_true, beq_iff_eq, hentryProper.qualified_eq, hentryProper.base_eq_keyBase,
      hproper.base_eq_keyBase]
    apply And.intro hqualified hbase
  · intro h entry hentry hand
    have hentryProper := unpruned_isProper names entry hentry
    rw [Bool.and_eq_true, beq_iff_eq, hentryProper.qualified_eq, hentryProper.base_eq_keyBase,
      hproper.base_eq_keyBase] at hand
    apply h entry.key (mem_keys_unpruned.mp (mem_keys_iff.mpr ⟨entry, hentry, rfl⟩)) hand.1 hand.2

/-- The keys of the index of a list of names are those that survive. -/
theorem mem_keys_ofNames {names : List String} {key : String} :
  key ∈ (ofNames names).keys ↔ Survives (keySet names) key
  := by
  rw [mem_keys_iff]
  constructor
  · rintro ⟨item, hitem, rfl⟩
    apply (mem_entries_ofNames_iff.mp hitem).2
  · intro h
    obtain ⟨item, hitem, rfl⟩ := mem_keys_iff.mp (mem_keys_unpruned.mpr h.1)
    use item, mem_entries_ofNames_iff.mpr ⟨hitem, h⟩

theorem keys_ofNames_nodup (names : List String) :
  (ofNames names).keys.Nodup
  := by
  have hsublist : (ofNames names).keys.Sublist (unpruned names).keys :=
    List.filter_sublist.map Item.key
  apply hsublist.nodup (nodup_map_distinctBy _)

/-- The entries are in strictly increasing order of their keys if no key is there twice. -/
theorem sorted_pairwise {index : Index} (h : index.keys.Nodup) :
  index.sorted.Pairwise fun first second => first.key < second.key
  := by
  have hle : index.sorted.Pairwise fun first second => decide (first.key ≤ second.key) = true := by
    apply List.pairwise_mergeSort
    · intro a b c hab hbc
      rw [decide_eq_true_eq] at hab hbc ⊢
      apply String.le_trans hab hbc
    · intro a b
      rw [Bool.or_eq_true, decide_eq_true_eq, decide_eq_true_eq]
      apply String.le_total
  have hne : index.sorted.Pairwise fun first second => first.key ≠ second.key := by
    rw [← List.pairwise_map]
    apply ((List.mergeSort_perm _ _).map Item.key).nodup_iff.mpr h
  apply (hle.and hne).imp
  rintro first second ⟨hle, hne⟩
  rw [decide_eq_true_eq] at hle
  by_contra hlt
  apply hne (String.le_antisymm hle (String.not_lt.mp hlt))

end Index

/-! ### Reports -/

namespace Reconciliation

/-- The keys that are reported are those that survive on one side and whose base the other has
not. -/
theorem mem_map_key_unmatched_iff {side other : List String} {key : String} :
  key ∈ (unmatched (.ofNames side) (.ofNames other)).map Item.key
    ↔ Survives (keySet side) key ∧ keyBase key ∉ baseSet other
  := by
  rw [← Index.mem_keys_ofNames, Index.mem_keys_iff, List.mem_map]
  have hhas : ∀ item ∈ (Index.ofNames side).entries,
      (Index.ofNames other).has item = false ↔ keyBase item.key ∉ baseSet other := by
    intro item hitem
    have hproper := Index.ofNames_isProper side item hitem
    rw [← Bool.not_eq_true, Index.has_iff (Index.ofNames_isProper other) hproper,
      Index.mem_bases_ofNames, hproper.base_eq_keyBase]
  constructor
  · rintro ⟨item, hitem, rfl⟩
    obtain ⟨hmem, hnot⟩ := mem_unmatched_iff.mp hitem
    use ⟨item, hmem, rfl⟩
    apply (hhas item hmem).mp hnot
  · rintro ⟨⟨item, hitem, rfl⟩, hnot⟩
    use item, mem_unmatched_iff.mpr ⟨hitem, (hhas item hitem).mpr hnot⟩

theorem map_key_unmatched_pairwise (side other : List String) :
  ((unmatched (.ofNames side) (.ofNames other)).map Item.key).Pairwise (· < ·)
  := by
  rw [List.pairwise_map]
  apply (Index.sorted_pairwise (Index.keys_ofNames_nodup side)).filter

/-- The key sets decide which keys are reported, and in which order. -/
theorem map_key_unmatched_congr {side side' other other' : List String}
    (h : keySet side = keySet side') (h' : keySet other = keySet other') :
  (unmatched (.ofNames side) (.ofNames other)).map Item.key
    = (unmatched (.ofNames side') (.ofNames other')).map Item.key
  := by
  apply (map_key_unmatched_pairwise side other).eq_of_mem_iff
    (map_key_unmatched_pairwise side' other')
  intro key
  rw [mem_map_key_unmatched_iff, mem_map_key_unmatched_iff, h, baseSet_eq_of_keySet_eq h']

end Reconciliation

/-- What is reported, up to the spelling: the category of a problem and the key of its item. -/
def Problem.report (problem : Problem) : ProblemKind × Option String :=
  (problem.kind, problem.item?.map lower)

namespace Reconciliation

theorem map_report_problems (declared documented : List String) (itemType : String) :
  (reconcile declared documented itemType).map Problem.report
    = ((unmatched (.ofNames declared) (.ofNames documented)).map Item.key).map
        (fun key => (.missingInMarkdown, some key))
      ++ ((unmatched (.ofNames documented) (.ofNames declared)).map Item.key).map
        (fun key => (.missingInTerraform, some key))
  := by
  have hkey : ∀ names others, ∀ item ∈ unmatched (.ofNames names) (.ofNames others),
      lower item.spelling = item.key := by
    intro names others item hitem
    apply (Index.ofNames_isProper names item (mem_unmatched_iff.mp hitem).1).lower_spelling
  rw [reconcile, problems, List.map_append, List.map_map, List.map_map, List.map_map, List.map_map]
  congr 1
  · apply List.map_congr_left
    intro item hitem
    rw [Function.comp_apply, Function.comp_apply, ← hkey _ _ item hitem]
    rfl
  · apply List.map_congr_left
    intro item hitem
    rw [Function.comp_apply, Function.comp_apply, ← hkey _ _ item hitem]
    rfl

end Reconciliation

/-! ### Spellings -/

/-- The names of a list are spelled alike if those with the same key differ by no more than the
blanks around them. -/
def SpelledAlike (names : List String) : Prop :=
  ∀ name ∈ names, ∀ other ∈ names, isBlankText name = false → isBlankText other = false →
    keyOf name = keyOf other → strip name = strip other

instance (names : List String) : Decidable (SpelledAlike names) :=
  inferInstanceAs (Decidable (∀ name ∈ names, ∀ other ∈ names, isBlankText name = false →
    isBlankText other = false → keyOf name = keyOf other → strip name = strip other))

/-- An entry of the index of a list of names has the spelling of one of them. -/
theorem Index.exists_of_mem_ofNames {names : List String} {item : Item}
    (h : item ∈ (ofNames names).entries) :
  ∃ name ∈ names, isBlankText name = false ∧ item.spelling = strip name ∧ item.key = keyOf name
  := by
  obtain ⟨name, hname, hitem⟩ :=
    List.mem_filterMap.mp (mem_of_mem_distinctBy (List.mem_of_mem_filter h))
  use name, hname
  apply Item.eq_of_ofName? hitem

/-- Names that are spelled alike have one item for each key. -/
theorem SpelledAlike.item_eq {names others : List String} (h : SpelledAlike (names ++ others))
    {item item' : Item} (hitem : item ∈ (Index.ofNames names).entries)
    (hitem' : item' ∈ (Index.ofNames others).entries) (hkey : item.key = item'.key) :
  item = item'
  := by
  obtain ⟨name, hname, hblank, hspelling, hname_key⟩ := Index.exists_of_mem_ofNames hitem
  obtain ⟨name', hname', hblank', hspelling', hname_key'⟩ := Index.exists_of_mem_ofNames hitem'
  apply (Index.ofNames_isProper names item hitem).eq_of_spelling_eq
    (Index.ofNames_isProper others item' hitem')
  rw [hspelling, hspelling']
  apply h name (List.mem_append_left _ hname) name' (List.mem_append_right _ hname') hblank hblank'
  rw [← hname_key, ← hname_key', hkey]

/-- Lists with the same keys are equal if the key determines the element. -/
theorem eq_of_map_eq_map {α κ : Type} {key : α → κ} {items others : List α}
    (h : items.map key = others.map key)
    (hkey : ∀ item ∈ items, ∀ other ∈ others, key item = key other → item = other) :
  items = others
  := by
  induction items generalizing others with
  | nil => simpa using h.symm
  | cons item items ih =>
      cases others with
      | nil => cases h
      | cons other others =>
          rw [List.map_cons, List.map_cons, List.cons.injEq] at h
          have hfirst := hkey item List.mem_cons_self other List.mem_cons_self h.1
          have hrest := ih h.2 fun a ha b hb =>
            hkey a (List.mem_cons_of_mem _ ha) b (List.mem_cons_of_mem _ hb)
          rw [hfirst, hrest]

theorem Reconciliation.unmatched_congr {side side' other other' : List String}
    (h : keySet side = keySet side') (h' : keySet other = keySet other')
    (hspelled : SpelledAlike (side ++ side')) :
  unmatched (.ofNames side) (.ofNames other) = unmatched (.ofNames side') (.ofNames other')
  := by
  apply eq_of_map_eq_map (map_key_unmatched_congr h h')
  intro item hitem item' hitem' hkey
  apply hspelled.item_eq (mem_unmatched_iff.mp hitem).1 (mem_unmatched_iff.mp hitem').1 hkey

/-! ### The two sides -/

/-- The problem with the two sides exchanged. -/
def Problem.exchange : Problem → Problem
  | undocumented itemType item => undeclared itemType item
  | undeclared itemType item => undocumented itemType item
  | problem => problem

/-- The problems of a kind. -/
def Problem.ofKind (kind : ProblemKind) (problems : List Problem) : List Problem :=
  problems.filter fun problem => problem.kind = kind

theorem ofKind_missingInMarkdown_reconcile (declared documented : List String) (itemType : String) :
  Problem.ofKind .missingInMarkdown (reconcile declared documented itemType)
    = (Reconciliation.unmatched (.ofNames declared) (.ofNames documented)).map
      (fun item => .undocumented itemType item.spelling)
  := by
  simp [Problem.ofKind, reconcile, Reconciliation.problems, Problem.kind, Reconciliation.ofNames,
    List.filter_map, Function.comp_def]

theorem ofKind_missingInTerraform_reconcile (declared documented : List String)
    (itemType : String) :
  Problem.ofKind .missingInTerraform (reconcile declared documented itemType)
    = (Reconciliation.unmatched (.ofNames documented) (.ofNames declared)).map
      (fun item => .undeclared itemType item.spelling)
  := by
  simp [Problem.ofKind, reconcile, Reconciliation.problems, Problem.kind, Reconciliation.ofNames,
    List.filter_map, Function.comp_def]

/-- Comparing the other way round exchanges the two blocks of problems and their kinds. -/
theorem reconcile_exchange (declared documented : List String) (itemType : String) :
  reconcile documented declared itemType
    = (Problem.ofKind .missingInTerraform (reconcile declared documented itemType)).map
        Problem.exchange
      ++ (Problem.ofKind .missingInMarkdown (reconcile declared documented itemType)).map
        Problem.exchange
  := by
  rw [ofKind_missingInMarkdown_reconcile, ofKind_missingInTerraform_reconcile, List.map_map,
    List.map_map]
  rfl

/-- What declared and documented names show depends on their key sets only, so neither the order of
the names nor repetitions nor blank names count: the same kinds of problems are reported of the same
keys, in the same order. The wording is the same too if the names are spelled alike on each side,
by both lists for it. Comparing the other way round exchanges the two blocks of problems and their
kinds. -/
theorem reconcile_unordered_and_symmetric
    (declared declared' documented documented' : List String) (itemType : String)
    (hdeclared : keySet declared = keySet declared')
    (hdocumented : keySet documented = keySet documented') :
  (reconcile declared documented itemType).map Problem.report
      = (reconcile declared' documented' itemType).map Problem.report
    ∧ (SpelledAlike (declared ++ declared') → SpelledAlike (documented ++ documented') →
      reconcile declared documented itemType = reconcile declared' documented' itemType)
    ∧ reconcile documented declared itemType
      = (Problem.ofKind .missingInTerraform (reconcile declared documented itemType)).map
          Problem.exchange
        ++ (Problem.ofKind .missingInMarkdown (reconcile declared documented itemType)).map
          Problem.exchange
  := by
  constructor
  · rw [Reconciliation.map_report_problems, Reconciliation.map_report_problems,
      Reconciliation.map_key_unmatched_congr hdeclared hdocumented,
      Reconciliation.map_key_unmatched_congr hdocumented hdeclared]
  · constructor
    · intro hspelled hspelled'
      rw [reconcile, reconcile, Reconciliation.problems, Reconciliation.problems]
      congr 2
      · apply Reconciliation.unmatched_congr hdeclared hdocumented hspelled
      · apply Reconciliation.unmatched_congr hdocumented hdeclared hspelled'
    · apply reconcile_exchange

/-- The same names in another order, with a repetition, blanks around a name and a blank name. -/
theorem reconcile_unordered_vpc :
  keySet ["aws_vpc", "aws_vpc.main", "aws_subnet"]
      = keySet [" aws_subnet", "", "aws_vpc.main", "aws_vpc", "aws_vpc.main"]
    ∧ SpelledAlike (["aws_vpc", "aws_vpc.main", "aws_subnet"]
      ++ [" aws_subnet", "", "aws_vpc.main", "aws_vpc", "aws_vpc.main"])
    ∧ reconcile ["aws_vpc", "aws_vpc.main", "aws_subnet"] ["aws_eip"] "Resources"
      = reconcile [" aws_subnet", "", "aws_vpc.main", "aws_vpc", "aws_vpc.main"] ["aws_eip"]
        "Resources"
  := by
  have hkeys : keySet ["aws_vpc", "aws_vpc.main", "aws_subnet"]
      = keySet [" aws_subnet", "", "aws_vpc.main", "aws_vpc", "aws_vpc.main"] := by
    decide +kernel
  have hspelled : SpelledAlike (["aws_vpc", "aws_vpc.main", "aws_subnet"]
      ++ [" aws_subnet", "", "aws_vpc.main", "aws_vpc", "aws_vpc.main"]) := by
    decide +kernel
  have hspelled' : SpelledAlike (["aws_eip"] ++ ["aws_eip"]) := by decide +kernel
  use hkeys, hspelled
  apply (reconcile_unordered_and_symmetric _ _ ["aws_eip"] ["aws_eip"] "Resources" hkeys rfl).2.1
    hspelled hspelled'

/-- Two lists, each of which spells every name in one way, need not give the same wording if they
spell a name differently. -/
theorem reconcile_wording_differs :
  ¬ ∀ (declared declared' documented documented' : List String) (itemType : String),
    keySet declared = keySet declared' → keySet documented = keySet documented' →
    SpelledAlike declared → SpelledAlike declared' →
    SpelledAlike documented → SpelledAlike documented' →
    (reconcile declared documented itemType).map Problem.message
      = (reconcile declared' documented' itemType).map Problem.message
  := by
  intro h
  have hkeys : keySet ["Foo"] = keySet ["foo"] := by decide +kernel
  have hspelled : SpelledAlike ["Foo"] := by decide +kernel
  have hspelled' : SpelledAlike ["foo"] := by decide +kernel
  have hnone : SpelledAlike [] := by decide +kernel
  have hsame := h ["Foo"] ["foo"] [] [] "Resources" hkeys rfl hspelled hspelled' hnone hnone
  revert hsame
  decide +kernel

end ReadmeAudit
