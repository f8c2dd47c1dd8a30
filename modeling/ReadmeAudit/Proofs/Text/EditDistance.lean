import Mathlib.Data.List.Induction
import Mathlib.Tactic.Use
import ReadmeAudit.Text.EditDistance

/-!
# What the edit distance measures

`Within edits source target` says that at most `edits` insertions, deletions and substitutions of
single characters, made from left to right, turn one list of characters into another. The relation
is symmetric, and the edits add up when such changes follow each other. The rows that
`editDistanceChars` computes list the least numbers of edits, because the last characters of two
lists are dealt with in one of four ways, and hence the edit distance of two lists is the least
number of edits that turns one into the other. It is the same along which of the two lists the rows
run.
-/

namespace ReadmeAudit.Text

/-! ### Edits -/

/-- A list of characters is within a number of edits of another if so many insertions, deletions and
substitutions, or fewer, turn it into the other, made from left to right. -/
inductive Within : (edits : Nat) → (source target : List Char) → Prop where
  /-- Nothing is left on either side. -/
  | nil {edits : Nat} : Within edits [] []
  /-- A character stays. -/
  | keep {edits : Nat} {c : Char} {source target : List Char} (h : Within edits source target) :
      Within edits (c :: source) (c :: target)
  /-- A character is replaced by another. -/
  | substitute {edits : Nat} {c d : Char} {source target : List Char}
      (h : Within edits source target) : Within (edits + 1) (c :: source) (d :: target)
  /-- A character is left out. -/
  | delete {edits : Nat} {c : Char} {source target : List Char} (h : Within edits source target) :
      Within (edits + 1) (c :: source) target
  /-- A character is added. -/
  | insert {edits : Nat} {d : Char} {source target : List Char} (h : Within edits source target) :
      Within (edits + 1) source (d :: target)

namespace Within

variable {edits more : Nat} {source middle target : List Char} {c d : Char}

theorem add_left (extra : Nat) (h : Within edits source target) :
  Within (extra + edits) source target
  := by
  induction h with
  | nil => apply nil
  | keep _ ih => apply keep ih
  | substitute _ ih => apply substitute ih
  | delete _ ih => apply delete ih
  | insert _ ih => apply insert ih

theorem mono (h : Within edits source target) (hle : edits ≤ more) :
  Within more source target
  := by
  obtain ⟨extra, rfl⟩ := Nat.exists_eq_add_of_le' hle
  apply h.add_left

theorem refl (edits : Nat) (source : List Char) :
  Within edits source source
  := by
  induction source with
  | nil => apply nil
  | cons c source ih => apply keep ih

theorem symm (h : Within edits source target) :
  Within edits target source
  := by
  induction h with
  | nil => apply nil
  | keep _ ih => apply keep ih
  | substitute _ ih => apply substitute ih
  | delete _ ih => apply insert ih
  | insert _ ih => apply delete ih

/-- The edits of two parts add up. -/
theorem append {source' target' : List Char} (h : Within edits source target)
    (h' : Within more source' target') :
  Within (edits + more) (source ++ source') (target ++ target')
  := by
  rw [Nat.add_comm]
  induction h with
  | nil => apply h'.mono (Nat.le_add_right _ _)
  | keep _ ih => apply keep ih
  | substitute _ ih => apply substitute ih
  | delete _ ih => apply delete ih
  | insert _ ih => apply insert ih

/-- The same edits can be made after all characters have been mapped. -/
theorem map (f : Char → Char) (h : Within edits source target) :
  Within edits (source.map f) (target.map f)
  := by
  induction h with
  | nil => apply nil
  | keep _ ih => apply keep ih
  | substitute _ ih => apply substitute ih
  | delete _ ih => apply delete ih
  | insert _ ih => apply insert ih

/-- The edits of two changes add up, one after the other. What the first change leaves out and what
the second one adds is dealt with first, and otherwise both are made at the same character. -/
theorem trans {edits more : Nat} {source middle target : List Char}
    (h : Within edits source middle) (h' : Within more middle target) :
  Within (edits + more) source target
  := by
  match h, h' with
  | .delete h, h' =>
      rw [Nat.add_right_comm]
      apply delete (trans h h')
  | h, .insert h' => apply insert (trans h h')
  | .nil, h' => apply h'.add_left
  | .keep h, .keep h' => apply keep (trans h h')
  | .keep h, .substitute h' => apply substitute (trans h h')
  | .keep h, .delete h' => apply delete (trans h h')
  | .substitute h, .keep h' =>
      rw [Nat.add_right_comm]
      apply substitute (trans h h')
  | .substitute h, .substitute h' => apply (substitute (trans h h')).mono (by omega)
  | .substitute h, .delete h' => apply (delete (trans h h')).mono (by omega)
  | .insert h, .keep h' =>
      rw [Nat.add_right_comm]
      apply insert (trans h h')
  | .insert h, .substitute h' => apply (insert (trans h h')).mono (by omega)
  | .insert h, .delete h' => apply (trans h h').mono (by omega)
termination_by source.length + middle.length + target.length

/-- The same edits can be made from right to left. -/
theorem reverse (h : Within edits source target) :
  Within edits source.reverse target.reverse
  := by
  induction h with
  | nil => apply nil
  | keep _ ih =>
      rw [List.reverse_cons, List.reverse_cons]
      apply ih.append (refl 0 _)
  | substitute _ ih =>
      rw [List.reverse_cons, List.reverse_cons]
      apply ih.append (substitute nil)
  | @delete edits c source target _ ih =>
      have hdelete := ih.append (@delete 0 c [] [] nil)
      rwa [List.append_nil, ← List.reverse_cons] at hdelete
  | @insert edits d source target _ ih =>
      have hinsert := ih.append (@insert 0 d [] [] nil)
      rwa [List.append_nil, ← List.reverse_cons] at hinsert

theorem reverse_iff :
  Within edits source.reverse target.reverse ↔ Within edits source target
  := by
  constructor
  · intro h
    simpa using h.reverse
  · apply reverse

@[simp]
theorem nil_left_iff :
  Within edits [] target ↔ target.length ≤ edits
  := by
  induction target generalizing edits with
  | nil => simp [nil]
  | cons d target ih =>
      constructor
      · rintro (_ | _ | _ | _ | h)
        apply Nat.succ_le_succ (ih.mp h)
      · intro h
        obtain ⟨fewer, rfl⟩ := Nat.exists_eq_add_of_le' (Nat.one_le_of_lt h)
        apply insert (ih.mpr (Nat.le_of_succ_le_succ h))

/-- An edit makes a list longer by one character at most. -/
theorem length_le (h : Within edits source target) :
  target.length ≤ source.length + edits
  := by
  induction h with
  | nil => apply Nat.zero_le
  | keep _ ih | substitute _ ih | delete _ ih | insert _ ih =>
      simp only [List.length_cons]
      omega

theorem comm :
  Within edits source target ↔ Within edits target source
  := ⟨symm, symm⟩

theorem cons_cons_iff :
  Within edits (c :: source) (d :: target)
    ↔ (c = d ∧ Within edits source target)
      ∨ ∃ fewer, edits = fewer + 1
        ∧ (Within fewer source target ∨ Within fewer source (d :: target)
          ∨ Within fewer (c :: source) target)
  := by
  constructor
  · rintro (_ | h | h | h | h)
    · apply Or.inl ⟨rfl, h⟩
    · apply Or.inr ⟨_, rfl, Or.inl h⟩
    · apply Or.inr ⟨_, rfl, Or.inr (Or.inl h)⟩
    · apply Or.inr ⟨_, rfl, Or.inr (Or.inr h)⟩
  · rintro (⟨rfl, h⟩ | ⟨fewer, rfl, h | h | h⟩)
    · apply keep h
    · apply substitute h
    · apply delete h
    · apply insert h

/-- The last characters of two lists are dealt with in one of four ways. -/
theorem concat_concat_iff :
  Within edits (source ++ [c]) (target ++ [d])
    ↔ (c = d ∧ Within edits source target)
      ∨ ∃ fewer, edits = fewer + 1
        ∧ (Within fewer source target ∨ Within fewer source (target ++ [d])
          ∨ Within fewer (source ++ [c]) target)
  := by
  have h := @cons_cons_iff edits source.reverse target.reverse c d
  simp only [← List.reverse_concat, reverse_iff] at h
  apply h

end Within

/-! ### Distances -/

/-- A number is the distance of two lists if it is the least number of edits that turns one into the
other. -/
def IsDistance (source target : List Char) (distance : Nat) : Prop :=
  ∀ edits, Within edits source target ↔ distance ≤ edits

variable {source target before : List Char} {c d : Char}

theorem isDistance_nil_left (target : List Char) :
  IsDistance [] target target.length
  := fun _ => Within.nil_left_iff

theorem isDistance_nil_right (source : List Char) :
  IsDistance source [] source.length
  := fun _ => Within.comm.trans Within.nil_left_iff

/-- The distance of two lists from those without the last characters. -/
theorem IsDistance.concat {corner up left : Nat} (hcorner : IsDistance source target corner)
    (hup : IsDistance source (target ++ [d]) up) (hleft : IsDistance (source ++ [c]) target left) :
  IsDistance (source ++ [c]) (target ++ [d])
    (min (min (up + 1) (left + 1)) (corner + if c = d then 0 else 1))
  := by
  intro edits
  rw [Within.concat_concat_iff]
  simp only [hcorner _, hup _, hleft _]
  by_cases heq : c = d
  · rw [if_pos heq]
    simp only [heq, true_and]
    cases edits with
    | zero => simp
    | succ edits =>
        simp only [Nat.add_right_cancel_iff, exists_eq_left']
        omega
  · rw [if_neg heq]
    simp only [heq, false_and, false_or]
    cases edits with
    | zero => simp
    | succ edits =>
        simp only [Nat.add_right_cancel_iff, exists_eq_left']
        omega

/-- A list is the part of the row of a source for a target that follows the entry for its
beginning. -/
inductive IsRow (source : List Char) : (before target : List Char) → List Nat → Prop where
  /-- Nothing follows at the end of the target. -/
  | nil {before : List Char} : IsRow source before [] []
  /-- The next entry is the distance to the beginning that is longer by one character. -/
  | cons {before target : List Char} {d : Char} {entry : Nat} {entries : List Nat}
      (hentry : IsDistance source (before ++ [d]) entry)
      (h : IsRow source (before ++ [d]) target entries) :
      IsRow source before (d :: target) (entry :: entries)

theorem IsRow.nextEntries {above : List Nat} {corner left : Nat}
    (h : IsRow source before target above) (hcorner : IsDistance source before corner)
    (hleft : IsDistance (source ++ [c]) before left) :
  IsRow (source ++ [c]) before target (nextEntries c corner left target above)
  := by
  induction h generalizing corner left with
  | nil => apply nil
  | cons hentry _ ih =>
      have hnext := hcorner.concat hentry hleft
      apply cons hnext (ih hentry hnext)

theorem isRow_range (before target : List Char) :
  IsRow [] before target (List.range' (before.length + 1) target.length)
  := by
  induction target generalizing before with
  | nil => apply IsRow.nil
  | cons d target ih =>
      have hlength : (before ++ [d]).length = before.length + 1 := List.length_append
      rw [List.length_cons, List.range'_succ, ← hlength]
      apply IsRow.cons (isDistance_nil_left _) (ih _)

theorem IsRow.getLastD {entries : List Nat} {entry : Nat}
    (h : IsRow source before target entries) (hentry : IsDistance source before entry) :
  IsDistance source (before ++ target) ((entry :: entries).getLastD 0)
  := by
  induction h generalizing entry with
  | nil => simpa using hentry
  | @cons before target d _ _ hnext _ ih =>
      have hlast := ih hnext
      rw [List.append_assoc] at hlast
      apply hlast

/-- The entries of the row of a source are its distances to the beginnings of the target. -/
theorem distanceRow_isRow (source target : List Char) :
  ∃ entries, distanceRow source target = source.length :: entries ∧ IsRow source [] target entries
  := by
  induction source using List.reverseRecOn with
  | nil =>
      use List.range' 1 target.length
      constructor
      · rw [distanceRow, List.foldl_nil, List.range_eq_range', List.range'_succ, List.length_nil]
      · apply isRow_range []
  | append_singleton source c ih =>
      obtain ⟨entries, hrow, h⟩ := ih
      have hlength : (source ++ [c]).length = source.length + 1 := List.length_append
      have hfirst := isDistance_nil_right (source ++ [c])
      rw [hlength] at hfirst ⊢
      rw [distanceRow] at hrow ⊢
      rw [List.foldl_append, hrow]
      use nextEntries c source.length (source.length + 1) target entries, rfl
      apply h.nextEntries (isDistance_nil_right source) hfirst

theorem editDistanceChars_isDistance (source target : List Char) :
  IsDistance source target (editDistanceChars source target)
  := by
  obtain ⟨entries, hrow, h⟩ := distanceRow_isRow source target
  rw [editDistanceChars, hrow]
  apply h.getLastD (isDistance_nil_right source)

/-! ### The shorter text -/

theorem IsDistance.symm {distance : Nat} (h : IsDistance source target distance) :
  IsDistance target source distance
  := fun edits => Within.comm.trans (h edits)

/-- Two lists have one distance only. -/
theorem IsDistance.eq {distance other : Nat} (h : IsDistance source target distance)
    (h' : IsDistance source target other) :
  distance = other
  := by
  apply Nat.le_antisymm
  · apply (h other).mp ((h' other).mpr (Nat.le_refl _))
  · apply (h' distance).mp ((h distance).mpr (Nat.le_refl _))

theorem distanceToShorter_isDistance (longer shorter : List Char) :
  IsDistance longer shorter (distanceToShorter longer shorter)
  := by
  rw [distanceToShorter]
  split
  · next hempty =>
    obtain rfl := List.isEmpty_iff.mp hempty
    apply isDistance_nil_right
  · apply editDistanceChars_isDistance

theorem editDistance_isDistance (source target : String) :
  IsDistance source.toList target.toList (editDistance source target)
  := by
  rw [editDistance]
  split
  · apply (distanceToShorter_isDistance _ _).symm
  · apply distanceToShorter_isDistance

/-- Neither the exchange of the texts nor the case of an empty one has an influence on the
distance. -/
theorem editDistance_eq_editDistanceChars (source target : String) :
  editDistance source target = editDistanceChars source.toList target.toList
  := (editDistance_isDistance source target).eq (editDistanceChars_isDistance _ _)

/-- The edit distance of two texts is the least number of edits that turns one into the other. -/
theorem editDistance_le_iff {source target : String} {edits : Nat} :
  editDistance source target ≤ edits ↔ Within edits source.toList target.toList
  := (editDistance_isDistance source target edits).symm

theorem within_editDistance (source target : String) :
  Within (editDistance source target) source.toList target.toList
  := editDistance_le_iff.mp (Nat.le_refl _)

theorem editDistance_comm (source target : String) :
  editDistance source target = editDistance target source
  := by
  apply Nat.le_antisymm
  · apply editDistance_le_iff.mpr (within_editDistance target source).symm
  · apply editDistance_le_iff.mpr (within_editDistance source target).symm

/-- The triangle inequality. -/
theorem editDistance_triangle (source middle target : String) :
  editDistance source target ≤ editDistance source middle + editDistance middle target
  := by
  apply editDistance_le_iff.mpr
  apply (within_editDistance source middle).trans (within_editDistance middle target)

@[simp]
theorem editDistance_self (text : String) :
  editDistance text text = 0
  := by
  apply Nat.le_zero.mp
  apply editDistance_le_iff.mpr (Within.refl 0 _)

/-- The distance to a longer text is the length of what is added at the end. -/
theorem editDistance_append (text added : String) :
  editDistance text (text ++ added) = added.toList.length
  := by
  apply Nat.le_antisymm
  · have hadded : Within added.toList.length [] added.toList :=
      Within.nil_left_iff.mpr (Nat.le_refl _)
    have h := (Within.refl 0 text.toList).append hadded
    rwa [List.append_nil, Nat.zero_add, ← String.toList_append, ← editDistance_le_iff] at h
  · have h := (within_editDistance text (text ++ added)).length_le
    rw [String.toList_append, List.length_append] at h
    apply Nat.le_of_add_le_add_left h

end ReadmeAudit.Text
