import Mathlib.Data.Sym.Sym2
import ReadmeAudit.Proofs.Text.Case
import ReadmeAudit.Readme.Layout
import ReadmeAudit.SectionName

/-!
# Which sections a heading denotes

A heading denotes a section by its edit distance, apart from the two headings that together stand
for the inputs: a plural is a special case of a typing error. Since the edit distance satisfies the
triangle inequality, a heading can denote two sections only if their names are at most twice the
tolerated distance apart. Among the sections of the table layout these are the inputs and the
outputs, and a heading that lies between the two denotes both. The sections of the document layout
are all further apart, so that a heading denotes one of them at most. Whether a heading resembles a
section depends on the distance as well, where case counts; an ASCII heading that does so denotes
the section. The distance is symmetric, so that heading and section can be exchanged except for the
two headings for inputs.
-/

namespace ReadmeAudit.SectionName

open Text

/-! ### Denotation by distance -/

/-- A plural is one edit away. -/
theorem editDistance_of_plural {seen wanted : String}
    (h : seen = wanted ++ "s" ∨ seen ++ "s" = wanted) :
  editDistance seen wanted = 1
  := by
  rcases h with rfl | rfl
  · rw [editDistance_comm, editDistance_append]
    decide
  · rw [editDistance_append]
    decide

theorem editDistance_le_of_plural {seen wanted : String}
    (h : seen = wanted ∨ seen = wanted ++ "s" ∨ seen ++ "s" = wanted) :
  editDistance seen wanted ≤ maxTypos
  := by
  rcases h with rfl | h
  · rw [editDistance_self]
    apply Nat.zero_le
  · rw [editDistance_of_plural h]
    decide

/-- A heading denotes a section if neither is blank and they are apart by the tolerated distance at
most, or if it is one of the two headings for inputs. -/
theorem denotes_iff {observed expected : String} :
  denotes observed expected = true
    ↔ (strip observed).isEmpty = false ∧ (strip expected).isEmpty = false
      ∧ (editDistance (lower (strip observed)) (lower (strip expected)) ≤ maxTypos
        ∨ strip expected = "Inputs" ∧ lower (strip observed) ∈ splitInputs)
  := by
  rw [denotes]
  split
  · next hempty =>
    rw [Bool.or_eq_true] at hempty
    rcases hempty with hempty | hempty
    · simp [hempty]
    · simp [hempty]
  · next hempty =>
    rw [Bool.or_eq_true, not_or, Bool.not_eq_true, Bool.not_eq_true] at hempty
    simp only [Bool.or_eq_true, Bool.and_eq_true, beq_iff_eq, decide_eq_true_eq,
      List.contains_iff_mem, hempty, true_and]
    constructor
    · rintro ((((h | h) | h) | h) | h)
      · apply Or.inl (editDistance_le_of_plural (Or.inl h))
      · apply Or.inl (editDistance_le_of_plural (Or.inr (Or.inl h)))
      · apply Or.inl (editDistance_le_of_plural (Or.inr (Or.inr h)))
      · apply Or.inr h
      · apply Or.inl h
    · rintro (h | h)
      · apply Or.inr h
      · apply Or.inl (Or.inr h)

/-- A heading resembles a section if they are apart by the tolerated distance at most, or differ in
case only. -/
theorem resembles_iff {found expected : String} :
  resembles found expected = true
    ↔ editDistance found expected ≤ maxTypos ∨ lower found = lower expected
  := by
  simp only [resembles, Bool.or_eq_true, beq_iff_eq, decide_eq_true_eq]
  constructor
  · rintro ((((h | h) | h) | h) | h)
    · apply Or.inl (editDistance_le_of_plural (Or.inl h))
    · apply Or.inl (editDistance_le_of_plural (Or.inr (Or.inr h)))
    · apply Or.inl (editDistance_le_of_plural (Or.inr (Or.inl h)))
    · apply Or.inl h
    · apply Or.inr h
  · rintro (h | h)
    · apply Or.inl (Or.inr h)
    · apply Or.inr h

/-- An ASCII heading that resembles a section denotes it, if neither is empty nor has blanks around
it. -/
theorem denotes_of_resembles {found expected : String} (hfound : IsAscii found)
    (hexpected : IsAscii expected) (hempty : found ≠ "") (hempty' : expected ≠ "")
    (hstrip : strip found = found) (hstrip' : strip expected = expected)
    (h : resembles found expected = true) :
  denotes found expected = true
  := by
  rw [denotes_iff, hstrip, hstrip']
  refine ⟨?_, ?_, Or.inl ?_⟩
  · simpa using hempty
  · simpa using hempty'
  · rcases resembles_iff.mp h with hdistance | hlower
    · apply (hfound.editDistance_lower_le hexpected).trans hdistance
    · apply editDistance_le_of_plural (Or.inl hlower)

/-- Two names that are both misspelled as one text are close to each other. -/
theorem editDistance_le_of_misspelled {seen first second : String}
    (h : editDistance seen first ≤ maxTypos) (h' : editDistance seen second ≤ maxTypos) :
  editDistance first second ≤ 2 * maxTypos
  := by
  calc editDistance first second
    _ ≤ editDistance first seen + editDistance seen second := editDistance_triangle _ _ _
    _ = editDistance seen first + editDistance seen second := by rw [editDistance_comm first]
    _ ≤ maxTypos + maxTypos := Nat.add_le_add h h'
    _ = 2 * maxTypos := (Nat.two_mul maxTypos).symm

/-- Two sections that one heading denotes have names that are close to each other, unless it is one
of the two headings for inputs. -/
theorem editDistance_le_of_denotes {heading first second : String}
    (h : denotes heading first = true) (h' : denotes heading second = true)
    (hsplit : lower (strip heading) ∉ splitInputs) :
  editDistance (lower (strip first)) (lower (strip second)) ≤ 2 * maxTypos
  := by
  have hclose : ∀ {name}, denotes heading name = true →
      editDistance (lower (strip heading)) (lower (strip name)) ≤ maxTypos := by
    intro name hname
    obtain ⟨-, -, hdistance | ⟨-, hmem⟩⟩ := denotes_iff.mp hname
    · apply hdistance
    · apply absurd hmem hsplit
  apply editDistance_le_of_misspelled (hclose h) (hclose h')

/-! ### The sections of the table layout -/

/-- A heading is ambiguous if it is both a tolerable misspelling of the inputs and one of the
outputs. -/
def Ambiguous (heading : String) : Prop :=
  editDistance (lower (strip heading)) "inputs" ≤ maxTypos
    ∧ editDistance (lower (strip heading)) "outputs" ≤ maxTypos

/-- The inputs and the outputs are the only two sections with names that are close to each other. -/
theorem eq_or_eq_of_editDistance_le :
  ∀ first ∈ Layout.table.requiredSections, ∀ second ∈ Layout.table.requiredSections,
    editDistance (lower (strip first)) (lower (strip second)) ≤ 2 * maxTypos →
      first = second ∨ s(first, second) = s("Inputs", "Outputs")
  := by
  decide +kernel

/-- The two headings for inputs are misspellings of no section. -/
theorem not_editDistance_le_of_mem_splitInputs :
  ∀ seen ∈ splitInputs, ∀ name ∈ Layout.table.requiredSections,
    ¬ editDistance seen (lower (strip name)) ≤ maxTypos
  := by
  decide +kernel

theorem strip_requiredSections :
  ∀ name ∈ Layout.table.requiredSections, strip name = name
  := by
  decide

/-- One of the two headings for inputs denotes no other section. -/
theorem eq_inputs_of_mem_splitInputs {heading name : String}
    (hsplit : lower (strip heading) ∈ splitInputs) (hname : name ∈ Layout.table.requiredSections)
    (h : denotes heading name = true) :
  name = "Inputs"
  := by
  obtain ⟨-, -, hdistance | ⟨hinputs, -⟩⟩ := denotes_iff.mp h
  · apply absurd hdistance (not_editDistance_le_of_mem_splitInputs _ hsplit _ hname)
  · rw [← hinputs, strip_requiredSections name hname]

/-- Only the inputs and the outputs can be denoted by one heading. -/
theorem eq_or_eq_of_denotes {heading first second : String}
    (hfirst : first ∈ Layout.table.requiredSections)
    (hsecond : second ∈ Layout.table.requiredSections)
    (h : denotes heading first = true) (h' : denotes heading second = true) :
  first = second ∨ s(first, second) = s("Inputs", "Outputs")
  := by
  by_cases hsplit : lower (strip heading) ∈ splitInputs
  · apply Or.inl
    rw [eq_inputs_of_mem_splitInputs hsplit hfirst h,
      eq_inputs_of_mem_splitInputs hsplit hsecond h']
  · apply eq_or_eq_of_editDistance_le first hfirst second hsecond
    apply editDistance_le_of_denotes h h' hsplit

theorem Ambiguous.strip_isEmpty {heading : String} (h : Ambiguous heading) :
  (strip heading).isEmpty = false
  := by
  apply Bool.eq_false_iff.mpr
  intro hempty
  rw [Ambiguous, String.isEmpty_iff.mp hempty, lower_empty] at h
  revert h
  decide

theorem denotes_inputs_and_outputs_iff {heading : String} :
  denotes heading "Inputs" = true ∧ denotes heading "Outputs" = true ↔ Ambiguous heading
  := by
  have hinputs : strip "Inputs" = "Inputs" ∧ lower "Inputs" = "inputs" := by decide
  have houtputs : strip "Outputs" = "Outputs" ∧ lower "Outputs" = "outputs" := by decide
  constructor
  · rintro ⟨h, h'⟩
    have hsplit : lower (strip heading) ∉ splitInputs := by
      intro hsplit
      apply absurd (eq_inputs_of_mem_splitInputs hsplit (by decide) h')
      decide
    rw [denotes_iff] at h h'
    simp only [hinputs, houtputs, hsplit, and_false, or_false] at h h'
    use h.2.2
    apply h'.2.2
  · intro h
    rw [denotes_iff, denotes_iff, hinputs.1, hinputs.2, houtputs.1, houtputs.2]
    use ⟨h.strip_isEmpty, rfl, Or.inl h.1⟩
    use h.strip_isEmpty, rfl
    apply Or.inl h.2

/-- One heading denotes two sections exactly if it is ambiguous and these are the inputs and the
outputs. -/
theorem denotes_both_iff {heading first second : String} :
  (first ∈ Layout.table.requiredSections ∧ second ∈ Layout.table.requiredSections ∧ first ≠ second
      ∧ denotes heading first = true ∧ denotes heading second = true)
    ↔ s(first, second) = s("Inputs", "Outputs") ∧ Ambiguous heading
  := by
  constructor
  · rintro ⟨hfirst, hsecond, hne, h, h'⟩
    have hpair := (eq_or_eq_of_denotes hfirst hsecond h h').resolve_left hne
    use hpair
    rw [← denotes_inputs_and_outputs_iff]
    rcases Sym2.eq_iff.mp hpair with ⟨rfl, rfl⟩ | ⟨rfl, rfl⟩
    · use h
    · use h'
  · rintro ⟨hpair, hambiguous⟩
    obtain ⟨hinputs, houtputs⟩ := denotes_inputs_and_outputs_iff.mpr hambiguous
    rcases Sym2.eq_iff.mp hpair with ⟨rfl, rfl⟩ | ⟨rfl, rfl⟩
    · use by decide, by decide, by decide, hinputs
    · use by decide, by decide, by decide, houtputs

/-- A heading that is the name of a section, up to case and blanks around it, is not ambiguous. -/
theorem Ambiguous.lower_notMem {heading : String} (h : Ambiguous heading) :
  lower (strip heading) ∉ Layout.table.requiredSections.map lower
  := by
  have hfar : ∀ wanted ∈ Layout.table.requiredSections.map lower,
      ¬ (editDistance wanted "inputs" ≤ maxTypos ∧ editDistance wanted "outputs" ≤ maxTypos) := by
    decide +kernel
  intro hmem
  apply hfar _ hmem h

/-! ### The sections of the document layout -/

/-- No two sections have names that are close to each other. -/
theorem eq_of_editDistance_le :
  ∀ first ∈ Layout.document.requiredSections, ∀ second ∈ Layout.document.requiredSections,
    editDistance (lower first) (lower second) ≤ 2 * maxTypos → first = second
  := by
  decide +kernel

/-- The name of no section is blank, has blanks around it, is that of the inputs, or is close to the
empty text. -/
theorem requiredSections_plain :
  ∀ name ∈ Layout.document.requiredSections,
    strip name = name ∧ name.isEmpty = false ∧ name ≠ "Inputs"
      ∧ ¬ editDistance (lower "") (lower name) ≤ maxTypos
  := by
  decide +kernel

/-- A heading denotes a section of the document layout by its edit distance alone. -/
theorem denotes_iff_editDistance_le {heading name : String}
    (hname : name ∈ Layout.document.requiredSections) :
  denotes heading name = true ↔ editDistance (lower (strip heading)) (lower name) ≤ maxTypos
  := by
  obtain ⟨hstrip, hempty, hinputs, hfar⟩ := requiredSections_plain name hname
  simp only [denotes_iff, hstrip, hempty, hinputs, false_and, or_false, true_and,
    and_iff_right_iff_imp]
  intro hclose
  apply Bool.eq_false_iff.mpr
  intro hblank
  rw [String.isEmpty_iff.mp hblank] at hclose
  apply hfar hclose

/-- A heading denotes one section of the document layout at most. -/
theorem eq_of_denotes {heading first second : String}
    (hfirst : first ∈ Layout.document.requiredSections)
    (hsecond : second ∈ Layout.document.requiredSections)
    (h : denotes heading first = true) (h' : denotes heading second = true) :
  first = second
  := by
  rw [denotes_iff_editDistance_le hfirst] at h
  rw [denotes_iff_editDistance_le hsecond] at h'
  apply eq_of_editDistance_le first hfirst second hsecond
  apply editDistance_le_of_misspelled h h'

theorem length_filter_denotes_le_one (heading : String) :
  (Layout.document.requiredSections.filter (denotes heading)).length ≤ 1
  := by
  have hnodup : (Layout.document.requiredSections.filter (denotes heading)).Nodup :=
    List.Nodup.filter _ (by decide)
  have heq : ∀ first ∈ Layout.document.requiredSections.filter (denotes heading),
      ∀ second ∈ Layout.document.requiredSections.filter (denotes heading), first = second := by
    intro first hfirst second hsecond
    rw [List.mem_filter] at hfirst hsecond
    apply eq_of_denotes hfirst.1 hsecond.1 hfirst.2 hsecond.2
  generalize Layout.document.requiredSections.filter (denotes heading) = found at hnodup heq
  match found with
  | [] => apply Nat.zero_le
  | [_] => apply Nat.le_refl
  | first :: second :: rest =>
      obtain rfl := heq first (by simp) second (by simp)
      simp at hnodup

/-! ### The two headings for inputs -/

/-- A heading is one of the two that together stand for the inputs, and the name is that of the
inputs. -/
def IsSplitInputs (heading name : String) : Prop :=
  strip name = "Inputs" ∧ lower (strip heading) ∈ splitInputs

namespace IsSplitInputs

variable {heading name : String}

theorem denotes_eq_true (h : IsSplitInputs heading name) :
  denotes heading name = true
  := by
  rw [denotes_iff]
  refine ⟨?_, ?_, Or.inr h⟩
  · apply Bool.eq_false_iff.mpr
    intro hempty
    have hsplit := h.2
    rw [String.isEmpty_iff.mp hempty, lower_empty] at hsplit
    revert hsplit
    decide
  · rw [h.1]
    decide

/-- The other way round, the inputs are no misspelling of the heading. -/
theorem denotes_eq_false (h : IsSplitInputs heading name) :
  denotes name heading = false
  := by
  obtain ⟨hname, hsplit⟩ := h
  have hinputs : "Inputs" ∈ Layout.table.requiredSections := by decide
  apply Bool.eq_false_iff.mpr
  intro h
  obtain ⟨-, -, hdistance | ⟨hheading, -⟩⟩ := denotes_iff.mp h
  · rw [editDistance_comm, hname, ← strip_requiredSections "Inputs" hinputs] at hdistance
    apply not_editDistance_le_of_mem_splitInputs _ hsplit "Inputs" hinputs hdistance
  · rw [hheading, ← strip_requiredSections "Inputs" hinputs] at hsplit
    apply not_editDistance_le_of_mem_splitInputs _ hsplit "Inputs" hinputs
    rw [editDistance_self]
    apply Nat.zero_le

end IsSplitInputs

/-- Apart from the two headings for inputs, it does not matter which of two texts is the heading. -/
theorem denotes_comm {first second : String} (h : ¬ IsSplitInputs first second)
    (h' : ¬ IsSplitInputs second first) :
  denotes first second = denotes second first
  := by
  rw [IsSplitInputs] at h h'
  rw [Bool.eq_iff_iff, denotes_iff, denotes_iff, or_iff_left h, or_iff_left h', editDistance_comm]
  apply and_left_comm

/-- It matters for the two headings for inputs. -/
theorem denotes_ne_iff {first second : String} :
  denotes first second ≠ denotes second first
    ↔ IsSplitInputs first second ∨ IsSplitInputs second first
  := by
  constructor
  · intro hne
    by_contra hsplit
    rw [not_or] at hsplit
    apply hne (denotes_comm hsplit.1 hsplit.2)
  · rintro (h | h)
    · rw [h.denotes_eq_true, h.denotes_eq_false]
      decide
    · rw [h.denotes_eq_true, h.denotes_eq_false]
      decide

/-- The rules by which sections are matched reduce to the edit distance. A heading denotes a section
if neither is blank and they are at most two edits apart in lower case, or if it is one of the two
headings for inputs. A heading resembles a section if they are at most two edits apart or differ in
case only. Equal texts and plurals need no rules of their own: they are no edit and one edit apart.
Exchanging heading and section matters for the two headings for inputs only, and so it does not if
neither text is the name of the inputs. -/
theorem rules_reduce_to_distance (observed expected : String) :
  (denotes observed expected = true
      ↔ isBlankText observed = false ∧ isBlankText expected = false
        ∧ (editDistance (lower (strip observed)) (lower (strip expected)) ≤ 2
          ∨ strip expected = "Inputs"
            ∧ (lower (strip observed) = "required inputs"
              ∨ lower (strip observed) = "optional inputs")))
    ∧ (resembles observed expected = true
      ↔ editDistance observed expected ≤ 2 ∨ lower observed = lower expected)
    ∧ (∀ seen wanted : String,
      (seen = wanted → editDistance seen wanted = 0)
        ∧ (seen = wanted ++ "s" ∨ seen ++ "s" = wanted → editDistance seen wanted = 1))
    ∧ (strip observed ≠ "Inputs" → strip expected ≠ "Inputs" →
      denotes observed expected = denotes expected observed)
    ∧ (denotes observed expected ≠ denotes expected observed
      ↔ IsSplitInputs observed expected ∨ IsSplitInputs expected observed)
  := by
  have hsplit : ∀ seen,
      seen ∈ splitInputs ↔ seen = "required inputs" ∨ seen = "optional inputs" := by
    intro seen
    rw [splitInputs, List.mem_cons, List.mem_singleton]
  refine ⟨?_, resembles_iff, ?_, ?_, denotes_ne_iff⟩
  · rw [denotes_iff, strip_isEmpty, strip_isEmpty, hsplit]
    rfl
  · intro seen wanted
    constructor
    · rintro rfl
      apply editDistance_self
    · apply editDistance_of_plural
  · intro hobserved hexpected
    apply denotes_comm
    · intro h
      apply hexpected h.1
    · intro h
      apply hobserved h.1

end ReadmeAudit.SectionName
