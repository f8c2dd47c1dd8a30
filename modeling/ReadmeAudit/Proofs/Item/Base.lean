import Mathlib.Data.Set.Basic
import ReadmeAudit.Proofs.Item.Grouping
import ReadmeAudit.Proofs.Text.Blank

/-!
# Bases of names

`baseOf name` is the base of a name, and `baseSet names` is the set of the bases of the names in a
collection that are not blank. The index of a list of names has exactly these bases: a name that is
left out because its key was there before has the base of the name that was there, and a bare name
that is left out has the base of the qualified name that supersedes it.
-/

namespace ReadmeAudit

open Text

/-- The base of a name: what stands ahead of the first point of the name in lower case, without
surrounding blanks. -/
def baseOf (name : String) : String :=
  strip (before '.' (lower (strip name)))

/-- The bases of the names of a collection that are not blank. -/
def baseSet {γ : Type} [Membership String γ] (names : γ) : Set String :=
  {base | ∃ name ∈ names, isBlankText name = false ∧ baseOf name = base}

/-- Blanks around a name do not count for its base. -/
@[simp]
theorem baseOf_strip (name : String) :
  baseOf (strip name) = baseOf name
  := by
  rw [baseOf, baseOf, strip_strip]

/-- Collections with the same names have the same bases. -/
theorem baseSet_congr
    {γ δ : Type} [Membership String γ] [Membership String δ] {names : γ} {others : δ}
    (h : ∀ name, name ∈ names ↔ name ∈ others) :
  baseSet names = baseSet others
  := by
  ext base
  simp only [baseSet, Set.mem_ofPred_eq, h]

/-! ### Items -/

namespace Item

/-- An item is proper if it is the item of its spelling. -/
def IsProper (item : Item) : Prop :=
  ofName? item.spelling = some item

theorem ofName?_eq_some_iff {name : String} {item : Item} :
  ofName? name = some item
    ↔ isBlankText name = false
      ∧ item = ⟨strip name, lower (strip name), baseOf name,
          (lower (strip name)).toList.contains '.'⟩
  := by
  rw [ofName?, strip_isEmpty]
  cases isBlankText name with
  | true => simp
  | false =>
      simp only [Bool.false_eq_true, if_false, Option.some.injEq, true_and]
      apply eq_comm

/-- The item of a name is proper. -/
theorem IsProper.of_ofName? {name : String} {item : Item} (h : ofName? name = some item) :
  item.IsProper
  := by
  obtain ⟨hblank, rfl⟩ := ofName?_eq_some_iff.mp h
  apply ofName?_eq_some_iff.mpr
  simp [isBlankText_strip, hblank]

theorem IsProper.base_eq {item : Item} (h : item.IsProper) :
  item.base = baseOf item.spelling
  := by
  obtain ⟨-, heq⟩ := ofName?_eq_some_iff.mp h
  rw [heq]
  simp

/-- Items with the same key have the same base. -/
theorem IsProper.base_eq_of_key_eq {item other : Item} (h : item.IsProper) (h' : other.IsProper)
    (hkey : item.key = other.key) :
  item.base = other.base
  := by
  obtain ⟨-, heq⟩ := ofName?_eq_some_iff.mp h
  obtain ⟨-, heq'⟩ := ofName?_eq_some_iff.mp h'
  rw [heq, heq'] at hkey ⊢
  simp only [baseOf] at hkey ⊢
  rw [hkey]

end Item

/-! ### Indexes -/

namespace Index

/-- An index is proper if its entries are. -/
def IsProper (index : Index) : Prop :=
  ∀ item ∈ index.entries, item.IsProper

@[simp]
theorem mem_bases_iff {index : Index} {base : String} :
  base ∈ index.bases ↔ ∃ item ∈ index.entries, item.base = base
  := by
  rw [bases_eq, List.mem_eraseDups, List.mem_map]

@[simp]
theorem withBase_isEmpty_iff {index : Index} {base : String} :
  (index.withBase base).isEmpty = false ↔ base ∈ index.bases
  := by
  rw [mem_bases_iff, withBase_eq]
  simp

/-- Whether an item is there is decided by its base: the look-up of its key alone decides
nothing. -/
theorem has_eq_withBase {index : Index} {item : Item} (h : index.IsProper)
    (hitem : item.IsProper) :
  index.has item = !(index.withBase item.base).isEmpty
  := by
  rw [has, Bool.or_eq_right_iff_imp, Bool.not_eq_true', withBase_isEmpty_iff, mem_bases_iff]
  intro hkey
  obtain ⟨entry, hentry, hkey⟩ := List.find?_isSome.mp hkey
  use entry, hentry
  apply Item.IsProper.base_eq_of_key_eq (h entry hentry) hitem (eq_of_beq hkey)

/-- An item is there exactly when its base is. -/
theorem has_iff {index : Index} {item : Item} (h : index.IsProper) (hitem : item.IsProper) :
  index.has item = true ↔ item.base ∈ index.bases
  := by
  rw [has_eq_withBase h hitem, Bool.not_eq_true', withBase_isEmpty_iff]

/-- Counting items with the same key once keeps the bases. -/
theorem mem_bases_distinct {items : List Item} (h : ∀ item ∈ items, item.IsProper)
    {base : String} :
  base ∈ (mk (distinct items)).bases ↔ base ∈ (mk items).bases
  := by
  rw [mem_bases_iff, mem_bases_iff]
  constructor
  · rintro ⟨item, hitem, rfl⟩
    use item, mem_of_mem_distinctBy hitem
  · rintro ⟨item, hitem, rfl⟩
    obtain ⟨kept, hkept, hkey⟩ : ∃ kept ∈ distinctBy Item.key items, kept.key = item.key :=
      exists_mem_distinctBy hitem
    use kept, hkept
    apply Item.IsProper.base_eq_of_key_eq (h kept (mem_of_mem_distinctBy hkept)) (h item hitem)
      hkey

/-- Removing superseded bare items keeps the bases. -/
theorem mem_bases_prune {items : List Item} {base : String} :
  base ∈ (mk (prune items)).bases ↔ base ∈ (mk items).bases
  := by
  rw [mem_bases_iff, mem_bases_iff]
  constructor
  · rintro ⟨item, hitem, rfl⟩
    use item, List.mem_of_mem_filter hitem
  · rintro ⟨item, hitem, rfl⟩
    by_cases hother : ∃ other ∈ items, other.qualified = true ∧ other.base = item.base
    · obtain ⟨other, hmem, hqualified, hbase⟩ := hother
      use other
      constructor
      · apply List.mem_filter.mpr
        use hmem
        simp [hqualified]
      · apply hbase
    · use item
      constructor
      · apply List.mem_filter.mpr
        use hitem
        rw [Bool.or_eq_true, Bool.not_eq_true', List.any_eq_false]
        apply Or.inr
        intro other hmem h
        rw [Bool.and_eq_true, beq_iff_eq] at h
        apply hother ⟨other, hmem, h⟩
      · rfl

/-- The items of a list of names have the bases of the names. -/
theorem mem_bases_filterMap {names : List String} {base : String} :
  base ∈ (mk (names.filterMap Item.ofName?)).bases ↔ base ∈ baseSet names
  := by
  rw [mem_bases_iff]
  constructor
  · rintro ⟨item, hitem, rfl⟩
    obtain ⟨name, hname, hitem⟩ := List.mem_filterMap.mp hitem
    obtain ⟨hblank, rfl⟩ := Item.ofName?_eq_some_iff.mp hitem
    use name, hname, hblank
  · rintro ⟨name, hname, hblank, rfl⟩
    use ⟨strip name, lower (strip name), baseOf name, (lower (strip name)).toList.contains '.'⟩
    constructor
    · apply List.mem_filterMap.mpr
      use name, hname
      apply Item.ofName?_eq_some_iff.mpr ⟨hblank, rfl⟩
    · rfl

theorem isProper_filterMap {names : List String} {item : Item}
    (h : item ∈ names.filterMap Item.ofName?) :
  item.IsProper
  := by
  obtain ⟨name, -, hname⟩ := List.mem_filterMap.mp h
  apply Item.IsProper.of_ofName? hname

/-- The index of a list of names before the bare items that others supersede are removed. -/
def unpruned (names : List String) : Index :=
  ⟨distinct (names.filterMap Item.ofName?)⟩

theorem unpruned_isProper (names : List String) :
  (unpruned names).IsProper
  := by
  intro item hitem
  apply isProper_filterMap (mem_of_mem_distinctBy hitem)

theorem ofNames_isProper (names : List String) :
  (ofNames names).IsProper
  := by
  intro item hitem
  apply unpruned_isProper names item (List.mem_of_mem_filter hitem)

theorem mem_bases_unpruned {names : List String} {base : String} :
  base ∈ (unpruned names).bases ↔ base ∈ baseSet names
  := by
  rw [unpruned, mem_bases_distinct (fun _ => isProper_filterMap), mem_bases_filterMap]

/-- The index of a list of names has the bases of the names. -/
@[simp]
theorem mem_bases_ofNames {names : List String} {base : String} :
  base ∈ (ofNames names).bases ↔ base ∈ baseSet names
  := by
  rw [ofNames, mem_bases_prune]
  apply mem_bases_unpruned

end Index

end ReadmeAudit
