import Mathlib.Data.List.Nodup
import ReadmeAudit.Pairs

/-!
# Distinct names

Where no name occurs twice in a list of pairs, looking up a name finds exactly the value that is
paired with it. Setting a value keeps names distinct.
-/

namespace ReadmeAudit.Pairs

variable {α β : Type} {pairs : List (α × β)} {name : α} {value : β}

/-! ### Look-up -/

section

variable [BEq α] [LawfulBEq α]

theorem mem_of_lookup (h : pairs.lookup name = some value) :
  (name, value) ∈ pairs
  := by
  obtain ⟨before, after, rfl, -⟩ := List.lookup_eq_some_iff.mp h
  apply List.mem_append_right _ List.mem_cons_self

theorem lookup_eq_some_of_mem
    (hnames : (pairs.map Prod.fst).Nodup) (h : (name, value) ∈ pairs) :
  pairs.lookup name = some value
  := by
  induction pairs with
  | nil => cases h
  | cons pair pairs ih =>
      rw [List.map_cons, List.nodup_cons] at hnames
      cases h with
      | head => simp
      | tail _ h =>
          have hother : (name == pair.1) = false := by
            apply beq_false_of_ne
            rintro rfl
            apply hnames.1
            apply List.mem_map.mpr ⟨_, h, rfl⟩
          rw [List.lookup_cons, hother]
          apply ih hnames.2 h

end

/-! ### Setting a value -/

variable [DecidableEq α]

theorem mem_put {pair : α × β} (h : pair ∈ put name value pairs) :
  pair = (name, value) ∨ pair ∈ pairs
  := by
  induction pairs with
  | nil => apply Or.inl (List.mem_singleton.mp h)
  | cons first rest ih =>
      rw [put] at h
      split at h
      · apply (List.mem_cons.mp h).imp_right (List.mem_cons_of_mem _)
      · rcases List.mem_cons.mp h with rfl | h
        · apply Or.inr List.mem_cons_self
        · apply (ih h).imp_right (List.mem_cons_of_mem _)

theorem put_names_nodup (h : (pairs.map Prod.fst).Nodup) :
  ((put name value pairs).map Prod.fst).Nodup
  := by
  induction pairs with
  | nil => apply List.nodup_singleton
  | cons first rest ih =>
      rw [List.map_cons, List.nodup_cons] at h
      rw [put]
      split
      · next heq =>
        rw [List.map_cons, List.nodup_cons, ← heq]
        apply h
      · next hne =>
        rw [List.map_cons, List.nodup_cons]
        constructor
        · intro hfirst
          obtain ⟨pair, hpair, heq⟩ := List.mem_map.mp hfirst
          rcases mem_put hpair with rfl | hpair
          · apply hne heq.symm
          · apply h.1 (List.mem_map.mpr ⟨pair, hpair, heq⟩)
        · apply ih h.2

end ReadmeAudit.Pairs
