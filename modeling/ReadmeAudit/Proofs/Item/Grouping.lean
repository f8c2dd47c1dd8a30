import ReadmeAudit.Item.Index
import ReadmeAudit.Proofs.Distinct
import ReadmeAudit.Proofs.Pairs

/-!
# Groups of items by base

`Index.byBase` files the entries of an index one after another. Filing an item changes the group of
its base only, and it adds a base only if that has no group yet. So after all entries have been
filed, looking a base up finds exactly the entries of that base, in their order, and the bases are
those of the entries, each at the place of its first occurrence. This holds of every list of
entries.
-/

namespace ReadmeAudit.Index

/-- The bases that have a group. -/
def bases (index : Index) : List String :=
  index.byBase.map Prod.fst

/-! ### One item -/

/-- Filing an item changes the group of its base only. -/
theorem lookup_file (groups : List (String × List Item)) (item : Item) (base : String) :
  (file groups item).lookup base
    = if base = item.base then some ((groups.lookup base).getD [] ++ [item])
      else groups.lookup base
  := by
  induction groups with
  | nil =>
      rw [file, List.lookup_cons]
      by_cases hbase : base = item.base
      · simp [hbase]
      · simp [hbase, beq_false_of_ne hbase]
  | cons first groups ih =>
      obtain ⟨name, group⟩ := first
      rw [file]
      by_cases hfile : name = item.base
      · rw [if_pos hfile, List.lookup_cons, List.lookup_cons, ← hfile]
        by_cases hbase : base = name
        · simp [hbase]
        · simp [hbase, beq_false_of_ne hbase]
      · rw [if_neg hfile, List.lookup_cons, List.lookup_cons, ih]
        by_cases hbase : base = name
        · simp [hbase, hfile]
        · simp [beq_false_of_ne hbase]

/-- Filing an item adds its base at the end, unless that has a group. -/
theorem map_fst_file (groups : List (String × List Item)) (item : Item) :
  (file groups item).map Prod.fst
    = groups.map Prod.fst ++ if item.base ∈ groups.map Prod.fst then [] else [item.base]
  := by
  induction groups with
  | nil => rfl
  | cons first groups ih =>
      obtain ⟨name, group⟩ := first
      rw [file]
      by_cases hfile : name = item.base
      · simp [hfile]
      · rw [if_neg hfile, List.map_cons, List.map_cons, ih, List.cons_append]
        simp only [List.mem_cons, Ne.symm hfile, false_or]

/-! ### All entries -/

theorem byBase_concat (entries : List Item) (item : Item) :
  (mk (entries ++ [item])).byBase = file (mk entries).byBase item
  := by
  rw [byBase, byBase, List.foldl_append]
  rfl

theorem getD_ite_eq_nil (group : List Item) :
  (if group = [] then none else some group).getD [] = group
  := by
  split
  · next hnone => rw [hnone, Option.getD_none]
  · rfl

/-- A base has a group exactly if there are entries of that base, and the group consists of them in
their order. -/
theorem lookup_byBase (index : Index) (base : String) :
  index.byBase.lookup base
    = if index.entries.filter (·.base == base) = [] then none
      else some (index.entries.filter (·.base == base))
  := by
  obtain ⟨entries⟩ := index
  induction entries using List.reverseRecOn with
  | nil => rfl
  | append_singleton entries item ih =>
      rw [byBase_concat, lookup_file, ih, getD_ite_eq_nil, List.filter_append]
      by_cases hbase : base = item.base
      · simp [hbase]
      · simp [hbase, Ne.symm hbase]

theorem withBase_eq (index : Index) (base : String) :
  index.withBase base = index.entries.filter (·.base == base)
  := by
  rw [withBase, lookup_byBase, getD_ite_eq_nil]

/-- The bases are in the order of their first occurrence. -/
theorem bases_eq (index : Index) :
  index.bases = (index.entries.map (·.base)).eraseDups
  := by
  obtain ⟨entries⟩ := index
  induction entries using List.reverseRecOn with
  | nil => rfl
  | append_singleton entries item ih =>
      rw [bases] at ih ⊢
      rw [byBase_concat, map_fst_file, ih, List.map_append, List.map_singleton, eraseDups_concat]
      simp only [List.mem_eraseDups, List.contains_iff_mem]

/-- No base has two groups. -/
theorem bases_nodup (index : Index) :
  index.bases.Nodup
  := by
  rw [bases_eq]
  apply nodup_eraseDups

/-- The groups are those that looking a base up finds. -/
theorem mem_byBase_iff {index : Index} {base : String} {group : List Item} :
  (base, group) ∈ index.byBase ↔ group = index.entries.filter (·.base == base) ∧ group ≠ []
  := by
  have hlookup : (base, group) ∈ index.byBase ↔ index.byBase.lookup base = some group := by
    constructor
    · apply Pairs.lookup_eq_some_of_mem index.bases_nodup
    · apply Pairs.mem_of_lookup
  rw [hlookup, lookup_byBase]
  split
  · next hnone =>
    rw [hnone]
    constructor
    · intro h
      cases h
    · rintro ⟨hgroup, hne⟩
      apply absurd hgroup hne
  · next hsome =>
    rw [Option.some.injEq]
    constructor
    · rintro rfl
      use rfl
    · intro h
      apply h.1.symm

end ReadmeAudit.Index
