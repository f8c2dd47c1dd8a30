import Mathlib.Data.List.Induction
import Mathlib.Data.List.Nodup
import Mathlib.Tactic.Use
import ReadmeAudit.Distinct

/-!
# First occurrences and what they keep

`distinctBy key` drops elements and loses no key: an element is there only if the list has it, and
for each element of the list one with the same key is there. No key is there twice. Where the key
determines the element, the same elements are there. What several tests accept of a list without
repeated keys is kept in the order of the first test that accepts it.
-/

namespace ReadmeAudit

variable {α κ : Type} [BEq κ] {key : α → κ}

theorem mem_of_mem_distinctAfter
    {seen : List κ} {items : List α} {item : α} (h : item ∈ distinctAfter key seen items) :
  item ∈ items
  := by
  induction items generalizing seen with
  | nil => cases h
  | cons first rest ih =>
      rw [distinctAfter] at h
      split at h
      · apply List.mem_cons_of_mem _ (ih h)
      · cases h with
        | head => apply List.mem_cons_self
        | tail _ h => apply List.mem_cons_of_mem _ (ih h)

/-- A key that has not been seen is that of an element that is kept. -/
theorem exists_mem_distinctAfter [LawfulBEq κ]
    {seen : List κ} {items : List α} {item : α} (h : item ∈ items) (hseen : key item ∉ seen) :
  ∃ kept ∈ distinctAfter key seen items, key kept = key item
  := by
  induction items generalizing seen with
  | nil => cases h
  | cons first rest ih =>
      rw [distinctAfter]
      by_cases hfirst : key first = key item
      · have hnew : ¬ seen.contains (key first) = true := by simpa [hfirst] using hseen
        rw [if_neg hnew]
        use first, List.mem_cons_self
      · have hrest : item ∈ rest := by
          cases h with
          | head => contradiction
          | tail _ h => apply h
        split
        · apply ih hrest hseen
        · have hseen' : key item ∉ key first :: seen := by
            simpa [hseen] using Ne.symm hfirst
          obtain ⟨kept, hkept, heq⟩ := ih hrest hseen'
          use kept, List.mem_cons_of_mem _ hkept

/-- What is kept is from the list. -/
theorem mem_of_mem_distinctBy {items : List α} {item : α} (h : item ∈ distinctBy key items) :
  item ∈ items
  := mem_of_mem_distinctAfter h

/-- No key is lost. -/
theorem exists_mem_distinctBy [LawfulBEq κ] {items : List α} {item : α} (h : item ∈ items) :
  ∃ kept ∈ distinctBy key items, key kept = key item
  := exists_mem_distinctAfter h List.not_mem_nil

/-- The keys of the elements that are kept have not been seen, and none is there twice. -/
theorem nodup_map_distinctAfter [LawfulBEq κ] (seen : List κ) (items : List α) :
  (∀ kept ∈ distinctAfter key seen items, key kept ∉ seen)
    ∧ ((distinctAfter key seen items).map key).Nodup
  := by
  induction items generalizing seen with
  | nil => simp [distinctAfter]
  | cons first rest ih =>
      rw [distinctAfter]
      split
      · apply ih
      · next hnew =>
        obtain ⟨hseen, hnodup⟩ := ih (key first :: seen)
        simp only [List.mem_cons, not_or] at hseen
        constructor
        · intro kept hkept
          cases hkept with
          | head => simpa using hnew
          | tail _ hkept => apply (hseen kept hkept).2
        · rw [List.map_cons, List.nodup_cons]
          constructor
          · intro hfirst
            obtain ⟨kept, hkept, heq⟩ := List.mem_map.mp hfirst
            apply (hseen kept hkept).1 heq
          · apply hnodup

/-- No key is there twice. -/
theorem nodup_map_distinctBy [LawfulBEq κ] (items : List α) :
  ((distinctBy key items).map key).Nodup
  := (nodup_map_distinctAfter [] items).2

/-- Nothing is lost of a list in which the key determines the element. -/
theorem mem_distinctBy_iff [LawfulBEq κ] {items : List α}
    (hkey : ∀ first ∈ items, ∀ second ∈ items, key first = key second → first = second)
    {item : α} :
  item ∈ distinctBy key items ↔ item ∈ items
  := by
  constructor
  · apply mem_of_mem_distinctBy
  · intro h
    obtain ⟨kept, hkept, heq⟩ : ∃ kept ∈ distinctBy key items, key kept = key item :=
      exists_mem_distinctBy h
    obtain rfl := hkey kept (mem_of_mem_distinctBy hkept) item h heq
    apply hkept

/-! ### Order -/

/-- What is kept after some keys have been seen is what is kept anyway, without those keys. -/
theorem distinctAfter_eq_filter [LawfulBEq κ] (seen : List κ) (items : List α) :
  distinctAfter key seen items = (distinctBy key items).filter fun item => !seen.contains (key item)
  := by
  induction items generalizing seen with
  | nil => rfl
  | cons first rest ih =>
      have hnew : distinctBy key (first :: rest)
          = first :: distinctAfter key [key first] rest := rfl
      rw [hnew, distinctAfter, ih seen, ih [key first], ih (key first :: seen), List.filter_cons,
        List.filter_filter]
      cases hfirst : seen.contains (key first) with
      | true =>
          simp only [if_true, Bool.not_true, Bool.false_eq_true, if_false]
          apply List.filter_congr
          intro item _
          by_cases heq : key item = key first
          · rw [heq, hfirst]
            rfl
          · simp [heq]
      | false =>
          simp only [Bool.false_eq_true, if_false, Bool.not_false, if_true]
          congr 1
          apply List.filter_congr
          intro item _
          simp [Bool.and_comm]

theorem distinctBy_cons [LawfulBEq κ] (first : α) (rest : List α) :
  distinctBy key (first :: rest)
    = first :: (distinctBy key rest).filter fun item => key item != key first
  := by
  have hnew : distinctBy key (first :: rest) = first :: distinctAfter key [key first] rest := rfl
  rw [hnew, distinctAfter_eq_filter]
  simp [bne]

/-- What is kept is the first element with its key. -/
theorem find?_of_mem_distinctBy [LawfulBEq κ] {items : List α} {item : α}
    (h : item ∈ distinctBy key items) :
  items.find? (fun other => key other == key item) = some item
  := by
  induction items with
  | nil => cases h
  | cons first rest ih =>
      rw [distinctBy_cons, List.mem_cons] at h
      rcases h with rfl | h
      · rw [List.find?_cons, BEq.rfl]
      · rw [List.mem_filter, bne_iff_ne] at h
        rw [List.find?_cons, beq_eq_false_iff_ne.mpr (Ne.symm h.2), ih h.1]

/-- Of two lists put together, everything of the first is kept, and of the second what has other
keys. -/
theorem distinctBy_append [LawfulBEq κ] (items others : List α) :
  distinctBy key (items ++ others)
    = distinctBy key items
      ++ (distinctBy key others).filter fun item => !(items.map key).contains (key item)
  := by
  induction items with
  | nil => apply distinctAfter_eq_filter []
  | cons first rest ih =>
      rw [List.cons_append, distinctBy_cons, distinctBy_cons, ih, List.filter_append,
        List.filter_filter]
      simp [bne]

/-- A list adds nothing to another one that has all its keys. -/
theorem distinctBy_append_eq_left [LawfulBEq κ] {items others : List α}
    (h : ∀ other ∈ others, key other ∈ items.map key) :
  distinctBy key (items ++ others) = distinctBy key items
  := by
  rw [distinctBy_append, List.append_right_eq_self, List.filter_eq_nil_iff]
  intro other hother
  simpa using h other (mem_of_mem_distinctBy hother)

/-- A list without a repeated key is kept as it is. -/
theorem distinctBy_eq_self [LawfulBEq κ] {items : List α} (h : (items.map key).Nodup) :
  distinctBy key items = items
  := by
  induction items with
  | nil => rfl
  | cons first rest ih =>
      rw [List.map_cons, List.nodup_cons] at h
      rw [distinctBy_cons, ih h.2, List.filter_eq_self.mpr]
      intro item hitem
      rw [bne_iff_ne]
      intro heq
      apply h.1 (heq ▸ List.mem_map_of_mem hitem)

/-- Lists that are each in order, put together and with each element kept once, are in order if each
element of a later list is in the earlier one or comes after everything in it. -/
theorem distinctBy_flatten_pairwise [LawfulBEq κ] {r : κ → κ → Prop} {blocks : List (List α)}
    (hne : ∀ {first second}, r first second → first ≠ second)
    (hblocks : ∀ block ∈ blocks, (block.map key).Pairwise r)
    (h : blocks.Pairwise fun first second => ∀ item ∈ second,
      key item ∈ first.map key ∨ ∀ other ∈ first, r (key other) (key item)) :
  ((distinctBy key blocks.flatten).map key).Pairwise r
  := by
  induction blocks with
  | nil => apply List.Pairwise.nil
  | cons block blocks ih =>
      rw [List.forall_mem_cons] at hblocks
      rw [List.pairwise_cons] at h
      rw [List.flatten_cons, distinctBy_append, distinctBy_eq_self (hblocks.1.imp hne),
        List.map_append, List.pairwise_append]
      refine ⟨hblocks.1, (ih hblocks.2 h.2).sublist (List.filter_sublist.map key), ?_⟩
      intro first hfirst second hsecond
      obtain ⟨other, hother, rfl⟩ := List.mem_map.mp hfirst
      obtain ⟨item, hitem, rfl⟩ := List.mem_map.mp hsecond
      obtain ⟨hitem, hnew⟩ := List.mem_filter.mp hitem
      obtain ⟨later, hlater, hitem⟩ := List.mem_flatten.mp (mem_of_mem_distinctBy hitem)
      rcases h.1 later hlater item hitem with hold | hafter
      · simp only [Bool.not_eq_true', ← Bool.not_eq_true, List.contains_iff_mem] at hnew
        apply absurd hold hnew
      · apply hafter other hother

/-! ### Repetitions -/

section

variable [LawfulBEq κ]

/-- One more element is kept if it is new. -/
theorem eraseDups_concat (items : List κ) (item : κ) :
  (items ++ [item]).eraseDups = items.eraseDups ++ if items.contains item then [] else [item]
  := by
  rw [List.eraseDups_append]
  by_cases hmem : item ∈ items
  · simp [List.removeAll, hmem]
  · simp [List.removeAll, hmem, List.eraseDups_cons]

/-- Erasing repetitions keeps first occurrences. -/
theorem eraseDups_eq_distinctBy (items : List κ) :
  items.eraseDups = distinctBy id items
  := by
  induction items using List.reverseRecOn with
  | nil => rfl
  | append_singleton items item ih =>
      rw [eraseDups_concat, distinctBy_append, ih, List.map_id]
      by_cases hmem : item ∈ items
      · simp [distinctBy, distinctAfter, hmem]
      · simp [distinctBy, distinctAfter, hmem]

theorem nodup_eraseDups (items : List κ) :
  items.eraseDups.Nodup
  := by
  rw [eraseDups_eq_distinctBy, ← List.map_id (distinctBy id items)]
  apply nodup_map_distinctBy

/-- Repetitions may be erased from two lists before they are put together. -/
theorem eraseDups_append_eraseDups (items others : List κ) :
  (items.eraseDups ++ others.eraseDups).eraseDups = (items ++ others).eraseDups
  := by
  have hself : ∀ items : List κ, distinctBy id (distinctBy id items) = distinctBy id items := by
    intro items
    apply distinctBy_eq_self (nodup_map_distinctBy items)
  simp only [eraseDups_eq_distinctBy, distinctBy_append, hself, List.map_id]
  congr 1
  apply List.filter_congr
  intro item _
  congr 1
  rw [Bool.eq_iff_iff, List.contains_iff_mem, List.contains_iff_mem]
  apply mem_distinctBy_iff
  intro first _ second _ heq
  apply heq

end

/-! ### Elements by the first test that accepts them -/

section

variable {β γ : Type}

/-- The elements of a list that several tests accept: those that the first test accepts, followed by
those others that the further tests accept. -/
def firstAccepted (accepts : β → α → Bool) (items : List α) : (tests : List β) → List α
  | [] => []
  | test :: tests =>
    items.filter (accepts test)
      ++ (firstAccepted accepts items tests).filter fun item => !accepts test item

variable {accepts : β → α → Bool} {items : List α} {tests : List β}

theorem mem_firstAccepted_iff {item : α} :
  item ∈ firstAccepted accepts items tests ↔ item ∈ items ∧ ∃ test ∈ tests, accepts test item = true
  := by
  induction tests with
  | nil => simp [firstAccepted]
  | cons test tests ih =>
      rw [firstAccepted, List.mem_append, List.mem_filter, List.mem_filter, ih]
      cases haccepts : accepts test item with
      | true => simp [haccepts]
      | false => simp [haccepts]

/-- An element comes before another if it is accepted by an earlier test, or by the same one and it
comes before it in the list. -/
theorem firstAccepted_pairwise {r : α → α → Prop} (h : items.Pairwise r) :
  (firstAccepted accepts items tests).Pairwise fun first second =>
    tests.findIdx (accepts · first) < tests.findIdx (accepts · second)
      ∨ tests.findIdx (accepts · first) = tests.findIdx (accepts · second) ∧ r first second
  := by
  induction tests with
  | nil => apply List.Pairwise.nil
  | cons test tests ih =>
      have hzero : ∀ {item}, item ∈ items.filter (accepts test) →
          (test :: tests).findIdx (accepts · item) = 0 := by
        intro item hitem
        rw [List.findIdx_cons, (List.mem_filter.mp hitem).2]
        rfl
      have hsucc : ∀ {item},
          item ∈ (firstAccepted accepts items tests).filter (fun item => !accepts test item) →
            (test :: tests).findIdx (accepts · item) = tests.findIdx (accepts · item) + 1 := by
        intro item hitem
        have haccepts : accepts test item = false := by simpa using (List.mem_filter.mp hitem).2
        rw [List.findIdx_cons, haccepts]
        rfl
      rw [firstAccepted, List.pairwise_append]
      refine ⟨?_, ?_, ?_⟩
      · apply (h.filter _).imp_of_mem
        intro first second hfirst hsecond hr
        apply Or.inr ⟨(hzero hfirst).trans (hzero hsecond).symm, hr⟩
      · apply (ih.filter _).imp_of_mem
        intro first second hfirst hsecond hr
        rw [hsucc hfirst, hsucc hsecond, Nat.add_lt_add_iff_right, Nat.add_right_cancel_iff]
        apply hr
      · intro first hfirst second hsecond
        rw [hzero hfirst, hsucc hsecond]
        apply Or.inl (Nat.succ_pos _)

theorem firstAccepted_map (f : γ → α) (items : List γ) :
  firstAccepted accepts (items.map f) tests
    = (firstAccepted (fun test item => accepts test (f item)) items tests).map f
  := by
  induction tests with
  | nil => rfl
  | cons test tests ih =>
      rw [firstAccepted, firstAccepted, ih, List.filter_map, List.filter_map, List.map_append]
      rfl

/-- What several tests accept, each element once, is in the order of the tests. -/
theorem distinctBy_flatten_filter [LawfulBEq κ] (h : (items.map key).Nodup) :
  distinctBy key (tests.map fun test => items.filter (accepts test)).flatten
    = firstAccepted accepts items tests
  := by
  induction tests with
  | nil => rfl
  | cons test tests ih =>
      rw [List.map_cons, List.flatten_cons, distinctBy_append, ih, firstAccepted,
        distinctBy_eq_self (h.sublist (List.filter_sublist.map key))]
      congr 1
      apply List.filter_congr
      intro item hitem
      have hkey : key item ∈ (items.filter (accepts test)).map key ↔ accepts test item = true := by
        rw [List.mem_map]
        constructor
        · rintro ⟨other, hother, heq⟩
          rw [List.mem_filter] at hother
          obtain rfl := List.inj_on_of_nodup_map h hother.1 (mem_firstAccepted_iff.mp hitem).1 heq
          apply hother.2
        · intro haccepts
          use item, List.mem_filter.mpr ⟨(mem_firstAccepted_iff.mp hitem).1, haccepts⟩
      rw [Bool.eq_iff_iff.mpr (List.contains_iff_mem.trans hkey)]

end

end ReadmeAudit
