import ReadmeAudit.Proofs.Text.EditDistance

/-!
# Sequences of edits

An `Edit` inserts, deletes or substitutes one character anywhere in a list, and `Edits count` is a
sequence of so many of them, each made in what the one before has left. Such a sequence need not go
from left to right, and it may change a character again that it has put there. It nevertheless
turns a list only into those that are `Within` its length, because the edits of two changes add up.
So the edit distance is the length of a shortest sequence.
-/

namespace ReadmeAudit.Text

/-- The insertion, deletion or substitution of a single character. -/
inductive Edit : (source target : List Char) → Prop where
  /-- A character is added. -/
  | insert (front back : List Char) (d : Char) : Edit (front ++ back) (front ++ d :: back)
  /-- A character is left out. -/
  | delete (front back : List Char) (c : Char) : Edit (front ++ c :: back) (front ++ back)
  /-- A character is replaced by another. -/
  | substitute (front back : List Char) (c d : Char) :
      Edit (front ++ c :: back) (front ++ d :: back)

/-- A sequence of a number of edits. -/
inductive Edits : (count : Nat) → (source target : List Char) → Prop where
  /-- No edit. -/
  | none {source : List Char} : Edits 0 source source
  /-- An edit before the others. -/
  | next {count : Nat} {source middle target : List Char} (h : Edit source middle)
      (hrest : Edits count middle target) : Edits (count + 1) source target

variable {count edits : Nat} {source target : List Char}

/-! ### Edits from left to right -/

theorem Edit.within (h : Edit source target) :
  Within 1 source target
  := by
  cases h with
  | insert front back d => apply (Within.refl 0 front).append (Within.insert (Within.refl 0 back))
  | delete front back c => apply (Within.refl 0 front).append (Within.delete (Within.refl 0 back))
  | substitute front back c d =>
      apply (Within.refl 0 front).append (Within.substitute (Within.refl 0 back))

/-- A sequence of edits can be replaced by one of at most its length that goes from left to
right. -/
theorem Edits.within (h : Edits count source target) :
  Within count source target
  := by
  induction h with
  | none => apply Within.refl
  | next h _ ih =>
      rw [Nat.add_comm]
      apply h.within.trans ih

theorem Edit.cons (c : Char) (h : Edit source target) :
  Edit (c :: source) (c :: target)
  := by
  cases h with
  | insert front back d => apply insert (c :: front)
  | delete front back d => apply delete (c :: front)
  | substitute front back d e => apply substitute (c :: front)

theorem Edits.cons (c : Char) (h : Edits count source target) :
  Edits count (c :: source) (c :: target)
  := by
  induction h with
  | none => apply none
  | next h _ ih => apply next (h.cons c) ih

/-- Edits from left to right are made one by one at the front, before those of the rest. -/
theorem Within.exists_edits (h : Within edits source target) :
  ∃ count ≤ edits, Edits count source target
  := by
  induction h with
  | nil =>
      use 0, Nat.zero_le _
      apply Edits.none
  | keep _ ih =>
      obtain ⟨count, hle, hedits⟩ := ih
      use count, hle
      apply hedits.cons
  | @substitute _ c d source target _ ih =>
      obtain ⟨count, hle, hedits⟩ := ih
      use count + 1, Nat.succ_le_succ hle
      apply Edits.next (Edit.substitute [] source c d) (hedits.cons d)
  | @delete _ c source target _ ih =>
      obtain ⟨count, hle, hedits⟩ := ih
      use count + 1, Nat.succ_le_succ hle
      apply Edits.next (Edit.delete [] source c) hedits
  | @insert _ d source target _ ih =>
      obtain ⟨count, hle, hedits⟩ := ih
      use count + 1, Nat.succ_le_succ hle
      apply Edits.next (Edit.insert [] source d) (hedits.cons d)

/-! ### Shortest sequences -/

theorem editDistance_le_of_edits {source target : String}
    (h : Edits count source.toList target.toList) :
  editDistance source target ≤ count
  := editDistance_le_iff.mpr h.within

theorem edits_editDistance (source target : String) :
  Edits (editDistance source target) source.toList target.toList
  := by
  obtain ⟨count, hle, h⟩ := (within_editDistance source target).exists_edits
  have hcount : count = editDistance source target :=
    Nat.le_antisymm hle (editDistance_le_of_edits h)
  rw [← hcount]
  apply h

theorem editDistance_eq_zero_iff {source target : String} :
  editDistance source target = 0 ↔ source = target
  := by
  constructor
  · intro h
    have hedits := edits_editDistance source target
    rw [h] at hedits
    generalize htarget : target.toList = chars at hedits
    cases hedits
    apply String.toList_inj.mp htarget.symm
  · rintro rfl
    apply Nat.le_zero.mp (editDistance_le_of_edits Edits.none)

/-- The edit distance of two texts is the length of a sequence of edits that turns one into the
other, and no sequence that does so is shorter. So it is a metric: it is symmetric, it is zero
exactly for equal texts, and the triangle inequality holds. The table of distances gives it along
either of the texts, also if one of them is empty. -/
theorem editDistance_is_least_number_of_edits (source target : String) :
  Edits (editDistance source target) source.toList target.toList
    ∧ (∀ count, Edits count source.toList target.toList → editDistance source target ≤ count)
    ∧ editDistance source target = editDistance target source
    ∧ (editDistance source target = 0 ↔ source = target)
    ∧ (∀ middle,
      editDistance source target ≤ editDistance source middle + editDistance middle target)
    ∧ editDistance source target = editDistanceChars source.toList target.toList
    ∧ editDistance source target = editDistanceChars target.toList source.toList
  := by
  use edits_editDistance source target
  constructor
  · intro count h
    apply editDistance_le_of_edits h
  · use editDistance_comm source target, editDistance_eq_zero_iff
    constructor
    · intro middle
      apply editDistance_triangle
    · use editDistance_eq_editDistanceChars source target
      rw [editDistance_comm]
      apply editDistance_eq_editDistanceChars

end ReadmeAudit.Text
