import Mathlib.Order.BooleanAlgebra.Set
import ReadmeAudit.Item.Reconciliation
import ReadmeAudit.Proofs.Item.Base

/-!
# Reconciliation by bases

A comparison is sound and complete at the level of bases. The bases of the items that it reports as
undocumented are those that the declared names have and the documented ones have not, and the other
way round, so that nothing is reported exactly when both sides have the same bases. The same bases
are reported when the superseded bare items are not removed.
-/

namespace ReadmeAudit

open Text

/-- The item that a problem is about. -/
def Problem.item? : Problem → Option String
  | undocumented _ item => some item
  | undeclared _ item => some item
  | _ => none

/-- The bases of the items that the problems of a kind are about. -/
def reportedBases (kind : ProblemKind) (problems : List Problem) : Set String :=
  {base | ∃ problem ∈ problems, problem.kind = kind
    ∧ ∃ item ∈ problem.item?, baseOf item = base}

namespace Reconciliation

@[simp]
theorem mem_unmatched_iff {side other : Index} {item : Item} :
  item ∈ unmatched side other ↔ item ∈ side.entries ∧ other.has item = false
  := by
  rw [unmatched, List.mem_filter, Index.sorted, List.mem_mergeSort, Bool.not_eq_true']

/-- The bases of the items of one side that the other has not are the bases of the one side that
are not bases of the other. -/
theorem exists_mem_unmatched_iff
    {side other : Index} (h : side.IsProper) (h' : other.IsProper) {base : String} :
  (∃ item ∈ unmatched side other, baseOf item.spelling = base)
    ↔ base ∈ side.bases ∧ base ∉ other.bases
  := by
  constructor
  · rintro ⟨item, hitem, rfl⟩
    obtain ⟨hside, hother⟩ := mem_unmatched_iff.mp hitem
    have hproper := h item hside
    rw [← hproper.base_eq]
    constructor
    · apply Index.mem_bases_iff.mpr ⟨item, hside, rfl⟩
    · rw [← Index.has_iff h' hproper, hother]
      apply Bool.false_ne_true
  · rintro ⟨hside, hother⟩
    obtain ⟨item, hitem, rfl⟩ := Index.mem_bases_iff.mp hside
    have hproper := h item hitem
    use item
    constructor
    · apply mem_unmatched_iff.mpr
      use hitem
      rw [← Bool.not_eq_true, Index.has_iff h' hproper]
      apply hother
    · rw [hproper.base_eq]

/-- A comparison represents two lists of names if its sides are proper and have the bases of the
lists. -/
structure Represents (comparison : Reconciliation) (declared documented : List String) : Prop where
  /-- The declared items are proper. -/
  declared_isProper : comparison.declared.IsProper
  /-- The documented items are proper. -/
  documented_isProper : comparison.documented.IsProper
  /-- The declared items have the bases of the declared names. -/
  mem_declared_bases : ∀ base, base ∈ comparison.declared.bases ↔ base ∈ baseSet declared
  /-- The documented items have the bases of the documented names. -/
  mem_documented_bases : ∀ base, base ∈ comparison.documented.bases ↔ base ∈ baseSet documented

theorem ofNames_represents (declared documented : List String) :
  (ofNames declared documented).Represents declared documented
  where
  declared_isProper := Index.ofNames_isProper declared
  documented_isProper := Index.ofNames_isProper documented
  mem_declared_bases _ := Index.mem_bases_ofNames
  mem_documented_bases _ := Index.mem_bases_ofNames

/-- The comparison of two lists of names whose superseded bare items are not removed. -/
def unpruned (declared documented : List String) : Reconciliation :=
  ⟨.unpruned declared, .unpruned documented⟩

theorem unpruned_represents (declared documented : List String) :
  (unpruned declared documented).Represents declared documented
  where
  declared_isProper := Index.unpruned_isProper declared
  documented_isProper := Index.unpruned_isProper documented
  mem_declared_bases _ := Index.mem_bases_unpruned
  mem_documented_bases _ := Index.mem_bases_unpruned

/-! ### Reported bases -/

section

variable {comparison : Reconciliation} {declared documented : List String}

/-- The bases that are reported as undocumented are the declared ones that are not documented. -/
theorem Represents.reportedBases_missingInMarkdown
    (h : comparison.Represents declared documented) (itemType : String) :
  reportedBases .missingInMarkdown (comparison.problems itemType)
    = baseSet declared \ baseSet documented
  := by
  ext base
  rw [Set.mem_sdiff, ← h.mem_declared_bases, ← h.mem_documented_bases,
    ← exists_mem_unmatched_iff h.declared_isProper h.documented_isProper]
  simp [reportedBases, problems, Problem.kind, Problem.item?, or_and_right, exists_or]

/-- The bases that are reported as undeclared are the documented ones that are not declared. -/
theorem Represents.reportedBases_missingInTerraform
    (h : comparison.Represents declared documented) (itemType : String) :
  reportedBases .missingInTerraform (comparison.problems itemType)
    = baseSet documented \ baseSet declared
  := by
  ext base
  rw [Set.mem_sdiff, ← h.mem_declared_bases, ← h.mem_documented_bases,
    ← exists_mem_unmatched_iff h.documented_isProper h.declared_isProper]
  simp [reportedBases, problems, Problem.kind, Problem.item?, or_and_right, exists_or]

/-- No base is reported in any other way. -/
theorem reportedBases_eq_empty {kind : ProblemKind} (hkind : kind ≠ .missingInMarkdown)
    (hkind' : kind ≠ .missingInTerraform) (comparison : Reconciliation) (itemType : String) :
  reportedBases kind (comparison.problems itemType) = ∅
  := by
  rw [Set.eq_empty_iff_forall_notMem]
  rintro base ⟨problem, hproblem, rfl, -⟩
  rcases List.mem_append.mp hproblem with h | h
  · obtain ⟨item, -, rfl⟩ := List.mem_map.mp h
    apply hkind rfl
  · obtain ⟨item, -, rfl⟩ := List.mem_map.mp h
    apply hkind' rfl

/-- Comparisons that represent the same names report the same bases. -/
theorem Represents.reportedBases_congr {other : Reconciliation}
    (h : comparison.Represents declared documented) (h' : other.Represents declared documented)
    (kind : ProblemKind) (itemType : String) :
  reportedBases kind (comparison.problems itemType) = reportedBases kind (other.problems itemType)
  := by
  by_cases hkind : kind = .missingInMarkdown
  · rw [hkind, h.reportedBases_missingInMarkdown, h'.reportedBases_missingInMarkdown]
  · by_cases hkind' : kind = .missingInTerraform
    · rw [hkind', h.reportedBases_missingInTerraform, h'.reportedBases_missingInTerraform]
    · rw [reportedBases_eq_empty hkind hkind', reportedBases_eq_empty hkind hkind']

/-- Every problem of a comparison reports a base, as undocumented or as undeclared. -/
theorem problems_eq_nil_iff_reportedBases (comparison : Reconciliation) (itemType : String) :
  comparison.problems itemType = []
    ↔ reportedBases .missingInMarkdown (comparison.problems itemType) = ∅
      ∧ reportedBases .missingInTerraform (comparison.problems itemType) = ∅
  := by
  constructor
  · intro h
    rw [h]
    simp [reportedBases]
  · rintro ⟨hundocumented, hundeclared⟩
    rw [List.eq_nil_iff_forall_not_mem]
    intro problem hproblem
    rcases List.mem_append.mp hproblem with h | h
    · obtain ⟨item, -, rfl⟩ := List.mem_map.mp h
      apply Set.notMem_empty (baseOf item.spelling)
      rw [← hundocumented]
      use .undocumented itemType item.spelling, hproblem, rfl, item.spelling, rfl
    · obtain ⟨item, -, rfl⟩ := List.mem_map.mp h
      apply Set.notMem_empty (baseOf item.spelling)
      rw [← hundeclared]
      use .undeclared itemType item.spelling, hproblem, rfl, item.spelling, rfl

/-- Nothing is reported exactly when the declared and the documented names have the same
bases. -/
theorem Represents.problems_eq_nil_iff
    (h : comparison.Represents declared documented) (itemType : String) :
  comparison.problems itemType = [] ↔ baseSet declared = baseSet documented
  := by
  rw [problems_eq_nil_iff_reportedBases, h.reportedBases_missingInMarkdown,
    h.reportedBases_missingInTerraform, Set.sdiff_eq_empty, Set.sdiff_eq_empty]
  apply Set.Subset.antisymm_iff.symm

end

end Reconciliation

/-- The problems that declared and documented names show report, as undocumented, exactly the bases
of the declared names that no documented name has, and, as undeclared, exactly the bases of the
documented names that no declared name has. So there is none exactly when both have the same bases.
Removing the bare items that others supersede has no influence on that. -/
theorem reconcile_sound_and_complete (declared documented : List String) (itemType : String) :
  reportedBases .missingInMarkdown (reconcile declared documented itemType)
      = baseSet declared \ baseSet documented
    ∧ reportedBases .missingInTerraform (reconcile declared documented itemType)
      = baseSet documented \ baseSet declared
    ∧ (reconcile declared documented itemType = [] ↔ baseSet declared = baseSet documented)
    ∧ ∀ kind, reportedBases kind (reconcile declared documented itemType)
      = reportedBases kind ((Reconciliation.unpruned declared documented).problems itemType)
  := by
  have h := Reconciliation.ofNames_represents declared documented
  have h' := Reconciliation.unpruned_represents declared documented
  constructor
  · apply h.reportedBases_missingInMarkdown
  · constructor
    · apply h.reportedBases_missingInTerraform
    · constructor
      · apply h.problems_eq_nil_iff
      · intro kind
        apply h.reportedBases_congr h'

end ReadmeAudit
