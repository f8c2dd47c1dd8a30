import ReadmeAudit.Proofs.Item.Order
import ReadmeAudit.Proofs.Text.Case

/-!
# What an index of names holds

`Index.Represents names index` says how the entries of the index of some names, its groups and its
look-ups fit together. Three properties of the entries are behind it: each is the item of its
spelling, no key is there twice, and no bare entry has the base of a qualified one. Dropping an
entry for its key or as superseded leaves its base in place, so that looking up the base alone
answers for all names that were given. The three properties also say that none of the steps that
make an index changes the entries again, and hence an index is that of the spellings of its
entries.
-/

namespace ReadmeAudit

open Text

/-- An item is qualified exactly if its name has a point. -/
theorem Item.IsProper.qualified_iff {item : Item} (h : item.IsProper) :
  item.qualified = true ↔ '.' ∈ item.spelling.toList
  := by
  rw [h.qualified_eq, keyQualified, List.contains_iff_mem, ← h.lower_spelling, point_mem_lower_iff]

namespace Index

/-! ### Keys -/

/-- Where no key is there twice, each entry is found under its own key. -/
theorem withKey?_eq_some_iff {index : Index} (h : index.keys.Nodup) {key : String} {item : Item} :
  index.withKey? key = some item ↔ item ∈ index.entries ∧ item.key = key
  := by
  rw [withKey?]
  constructor
  · intro hfound
    have hkey := List.find?_some hfound
    use List.mem_of_find?_eq_some hfound
    apply eq_of_beq hkey
  · rintro ⟨hitem, rfl⟩
    apply find?_of_mem_distinctBy
    rw [distinctBy_eq_self h]
    apply hitem

/-! ### Groups -/

/-- A group that has an entry is that of its base. -/
theorem mem_group_iff {index : Index} {item : Item} (h : item ∈ index.entries)
    {base : String} {group : List Item} (hgroup : (base, group) ∈ index.byBase) :
  item ∈ group ↔ (base, group) = (item.base, index.withBase item.base)
  := by
  obtain ⟨rfl, -⟩ := mem_byBase_iff.mp hgroup
  rw [withBase_eq, List.mem_filter, beq_iff_eq, Prod.mk.injEq]
  constructor
  · rintro ⟨-, rfl⟩
    use rfl
  · rintro ⟨rfl, -⟩
    use h

theorem mem_withBase {index : Index} {item : Item} (h : item ∈ index.entries) :
  item ∈ index.withBase item.base
  := by
  rw [withBase_eq, List.mem_filter]
  use h
  apply BEq.rfl

/-- An entry is in one group only. -/
theorem filter_mem_byBase {index : Index} {item : Item} (h : item ∈ index.entries) :
  index.byBase.filter (fun entry => item ∈ entry.2) = [(item.base, index.withBase item.base)]
  := by
  have hmem : (item.base, index.withBase item.base) ∈ index.byBase := by
    apply mem_byBase_iff.mpr
    use index.withBase_eq item.base
    apply List.ne_nil_of_mem (mem_withBase h)
  have hnodup : index.byBase.Nodup := index.bases_nodup.of_map
  -- Having the entry is the same as being that group, of which there is one.
  have hfilter : index.byBase.filter (fun entry => item ∈ entry.2)
      = index.byBase.filter (· == (item.base, index.withBase item.base)) := by
    apply List.filter_congr
    rintro ⟨base, group⟩ hgroup
    rw [Bool.eq_iff_iff, decide_eq_true_iff, beq_iff_eq]
    apply mem_group_iff h hgroup
  rw [hfilter, List.filter_beq, List.count_eq_one_of_mem hnodup hmem, List.replicate_one]

/-- An entry is in its group once, where no key is there twice. -/
theorem count_withBase {index : Index} (hkeys : index.keys.Nodup) {item : Item}
    (h : item ∈ index.entries) :
  (index.withBase item.base).count item = 1
  := by
  have hnodup : (index.withBase item.base).Nodup := by
    rw [withBase_eq]
    apply hkeys.of_map.filter
  apply List.count_eq_one_of_mem hnodup (mem_withBase h)

/-! ### Bare and qualified entries -/

/-- Items are separated if no bare one has the base of a qualified one. -/
def IsSeparated (items : List Item) : Prop :=
  ∀ bare ∈ items, ∀ other ∈ items, bare.qualified = false → other.qualified = true →
    bare.base ≠ other.base

theorem prune_isSeparated (items : List Item) :
  IsSeparated (prune items)
  := by
  intro bare hbare other hother hbareQualified hqualified hbase
  have hkept := (List.mem_filter.mp hbare).2
  rw [hbareQualified, Bool.false_or, Bool.not_eq_true', List.any_eq_false] at hkept
  apply hkept other (List.mem_of_mem_filter hother)
  rw [hqualified, hbase, BEq.rfl]
  rfl

/-- Items that are separated are kept. -/
theorem IsSeparated.prune_eq {items : List Item} (h : IsSeparated items) :
  prune items = items
  := by
  rw [prune, List.filter_eq_self]
  intro item hitem
  rw [Bool.or_eq_true, Bool.not_eq_true', List.any_eq_false]
  cases hqualified : item.qualified with
  | true => apply Or.inl rfl
  | false =>
      apply Or.inr
      intro other hother hand
      rw [Bool.and_eq_true, beq_iff_eq] at hand
      apply h item hitem other hother hqualified hand.1 hand.2.symm

/-! ### Indexes of spellings -/

theorem filterMap_ofName?_spellings {items : List Item} (h : ∀ item ∈ items, item.IsProper) :
  (items.map Item.spelling).filterMap Item.ofName? = items
  := by
  have hsome : items.filterMap (Item.ofName? ∘ Item.spelling) = items.filterMap some := by
    apply List.filterMap_congr
    intro item hitem
    have hproper := h item hitem
    rw [Item.IsProper] at hproper
    rw [Function.comp_apply, hproper]
  rw [List.filterMap_map, hsome, List.filterMap_some]

/-- No step changes entries that are proper, have different keys and are separated. -/
theorem ofNames_spellings_eq {index : Index} (h : index.IsProper) (hkeys : index.keys.Nodup)
    (hseparated : IsSeparated index.entries) :
  ofNames (index.entries.map Item.spelling) = index
  := by
  rw [ofNames, filterMap_ofName?_spellings h, distinct, distinctBy_eq_self hkeys,
    hseparated.prune_eq]

/-- Repeating all names changes nothing. -/
theorem ofNames_append_self (names : List String) :
  ofNames (names ++ names) = ofNames names
  := by
  have hkeys : ∀ item ∈ names.filterMap Item.ofName?,
      item.key ∈ (names.filterMap Item.ofName?).map Item.key := by
    intro item hitem
    apply List.mem_map_of_mem hitem
  rw [ofNames, ofNames, List.filterMap_append, distinct, distinctBy_append_eq_left hkeys, distinct]

/-! ### The index of a list of names -/

/-- An index represents a list of names if its entries can be found by their keys and by their
bases, its look-ups answer for all names, and making it again does not change it. -/
structure Represents (names : List String) (index : Index) : Prop where
  /-- Each entry is found under its own key. -/
  withKey?_iff : ∀ key item, index.withKey? key = some item ↔ item ∈ index.entries ∧ item.key = key
  /-- No base has two groups. -/
  nodup_byBase : (index.byBase.map Prod.fst).Nodup
  /-- The group of a base consists of the entries with that base, in their order. A base without
  entries has no group. -/
  lookup_byBase : ∀ base, index.byBase.lookup base
    = if index.entries.filter (·.base == base) = [] then none
      else some (index.entries.filter (·.base == base))
  /-- No group is empty. -/
  group_ne_nil : ∀ base group, (base, group) ∈ index.byBase → group ≠ []
  /-- Each entry is in one group, and it is there once. -/
  group_of_mem : ∀ item ∈ index.entries,
    index.byBase.filter (fun entry => item ∈ entry.2) = [(item.base, index.withBase item.base)]
      ∧ (index.withBase item.base).count item = 1
  /-- An entry is qualified exactly if its name has a point. -/
  qualified_iff : ∀ item ∈ index.entries, item.qualified = true ↔ '.' ∈ item.spelling.toList
  /-- No entry without a point has the base of an entry with one. -/
  base_ne : ∀ bare ∈ index.entries, ∀ other ∈ index.entries,
    bare.qualified = false → other.qualified = true → bare.base ≠ other.base
  /-- An item is there exactly if one of the names that are not blank has its base, whether that
  name has an entry or not. -/
  has_iff : ∀ query item, Item.ofName? query = some item →
    (index.has item = true ↔ ∃ name ∈ names, isBlankText name = false ∧ baseOf name = item.base)
  /-- The look-up of the key of an item decides nothing: that of its base alone has the answer. -/
  has_eq : ∀ query item, Item.ofName? query = some item →
    index.has item = !(index.withBase item.base).isEmpty
  /-- The spellings of the entries have the same index. -/
  ofNames_spellings : ofNames (index.entries.map Item.spelling) = index
  /-- All names twice have the same index. -/
  ofNames_append_self : ofNames (names ++ names) = index

/-- The index of the names that are given represents them; if none are given, it represents the
empty list. -/
theorem ofGiven_represents (names : Option (List String)) :
  Represents (names.getD []) (ofGiven names)
  := by
  rw [ofGiven]
  generalize names.getD [] = names
  have hproper := ofNames_isProper names
  have hkeys := keys_ofNames_nodup names
  exact {
    withKey?_iff := fun _ _ => withKey?_eq_some_iff hkeys
    nodup_byBase := bases_nodup _
    lookup_byBase := lookup_byBase _
    group_ne_nil := fun _ _ hgroup => (mem_byBase_iff.mp hgroup).2
    group_of_mem := fun _ hitem => ⟨filter_mem_byBase hitem, count_withBase hkeys hitem⟩
    qualified_iff := fun item hitem => (hproper item hitem).qualified_iff
    base_ne := prune_isSeparated _
    has_iff := fun _ _ hquery =>
      (Index.has_iff hproper (.of_ofName? hquery)).trans mem_bases_ofNames
    has_eq := fun _ _ hquery => has_eq_withBase hproper (.of_ofName? hquery)
    ofNames_spellings := ofNames_spellings_eq hproper hkeys (prune_isSeparated _)
    ofNames_append_self := Index.ofNames_append_self names }

/-- Blanks ahead of a point, several points and a point in front: the base is what comes before the
first one. -/
example :
    (ofNames ["vpc", "VPC .a", " ", ".main", "vpc.a.b", "vpc .A"]).byBase.map
        (fun (base, group) => (base, group.map Item.spelling))
      = [("vpc", ["VPC .a", "vpc.a.b"]), ("", [".main"])] := by
  decide +kernel

end Index

end ReadmeAudit
