import Mathlib.Data.List.Nodup
import Mathlib.Tactic.Use
import ReadmeAudit.Check.Sections
import ReadmeAudit.Proofs.Audit

/-!
# How often a section is reported

Whenever a section without a heading of its name is looked at, exactly one problem is reported about
it, which says that it is missing or misspelled. A required section that is missing is remembered
and not looked at again, but one that is misspelled is, and so is an additional section that was
already reported. Hence `reportsOf` a section is at most one exactly when the section has a heading
of its name, or is required and missing, or is asked for only once.
-/

namespace ReadmeAudit

/-- The section of which a problem says that it is missing or misspelled. -/
def Problem.section? : Problem → Option String
  | missingSection _ name => some name
  | misspelledSection _ name => some name
  | _ => none

namespace Check

/-- The number of problems which say of a section that it is missing or misspelled. -/
def reportsOf (name : String) (problems : List Problem) : Nat :=
  (problems.filterMap Problem.section?).count name

@[simp]
theorem reportsOf_append (name : String) (problems others : List Problem) :
  reportsOf name (problems ++ others) = reportsOf name problems + reportsOf name others
  := by
  simp only [reportsOf, List.filterMap_append, List.count_append]

/-- Whether an occurrence counts may be asked of the one that occurs. -/
theorem ite_count_singleton (P : String → Prop) [DecidablePred P] (name other : String) :
  (if P name then 0 else [other].count name) = if P other then 0 else [other].count name
  := by
  by_cases h : name = other
  · rw [h]
  · have hcount : [other].count name = 0 := by
      rw [List.count_eq_zero, List.mem_singleton]
      apply h
    simp only [hcount, ite_self]

theorem reportsOf_pos_of_mem {problem : Problem} {problems : List Problem} {name : String}
    (h : problem ∈ problems) (hname : problem.section? = some name) :
  0 < reportsOf name problems
  := by
  apply List.count_pos_iff.mpr
  apply List.mem_filterMap.mpr
  use problem, h, hname

theorem reportsOf_eq_zero {problems : List Problem}
    (h : ∀ problem ∈ problems, problem.section? = none) (name : String) :
  reportsOf name problems = 0
  := by
  rw [reportsOf, List.filterMap_eq_nil_iff.mpr h]
  rfl

namespace Assignment

variable {titles : List String} {assignment : Assignment}

/-! ### One section -/

/-- What is found for a section: a heading of its name, or else a heading that looks like it and is
not taken, or, if there is none, nothing. -/
theorem verdict_cases (titles : List String) (assignment : Assignment) (name : String) :
  (name ∈ titles ∧ assignment.verdict titles name = .exact)
    ∨ (name ∉ titles ∧ ∃ found ∈ titles, found ∉ assignment.claimed
      ∧ SectionName.resembles found name = true
      ∧ assignment.verdict titles name = .misspelled found)
    ∨ (name ∉ titles
      ∧ (∀ found ∈ titles, SectionName.resembles found name = true → found ∈ assignment.claimed)
      ∧ assignment.verdict titles name = .missing)
  := by
  by_cases hname : name ∈ titles
  · apply Or.inl
    use hname
    rw [verdict, if_pos (List.contains_iff_mem.mpr hname)]
  · have hcontains : ¬titles.contains name = true := by
      rwa [List.contains_iff_mem]
    apply Or.inr
    cases hfind : titles.find? fun found =>
        !assignment.claimed.contains found && SectionName.resembles found name with
    | some found =>
        have hfound := List.find?_some hfind
        rw [Bool.and_eq_true, Bool.not_eq_true', ← Bool.not_eq_true, List.contains_iff_mem]
          at hfound
        apply Or.inl
        use hname, found, List.mem_of_find?_eq_some hfind, hfound.1, hfound.2
        rw [verdict, if_neg hcontains, hfind]
    | none =>
        apply Or.inr
        use hname
        constructor
        · intro found hfound hresembles
          simpa [hresembles] using List.find?_eq_none.mp hfind found hfound
        · rw [verdict, if_neg hcontains, hfind]

/-- What the addition of a section does. If there is a heading of its name, that is taken. Otherwise
a heading that looks like it and is not taken becomes its misspelling, or, if there is none, the
section is missing. -/
theorem add_cases (titles : List String) (assignment : Assignment) (demand : Demand)
    (name : String) :
  (name ∈ titles
      ∧ assignment.add demand titles name
        = { assignment with claimed := name :: assignment.claimed })
    ∨ (name ∉ titles ∧ ∃ found ∈ titles, found ∉ assignment.claimed
      ∧ SectionName.resembles found name = true
      ∧ assignment.add demand titles name
        = { assignment with
            claimed := found :: assignment.claimed
            problems := assignment.problems ++ [.misspelledSection found name] })
    ∨ (name ∉ titles
      ∧ (∀ found ∈ titles, SectionName.resembles found name = true → found ∈ assignment.claimed)
      ∧ assignment.add demand titles name
        = { assignment with
            missing :=
              if demand = .required then name :: assignment.missing else assignment.missing
            problems := assignment.problems ++ [.missingSection demand name] })
  := by
  rcases verdict_cases titles assignment name with
    ⟨hname, hverdict⟩ | ⟨hname, found, hfound, hclaimed, hresembles, hverdict⟩
      | ⟨hname, hclaimed, hverdict⟩
  · apply Or.inl
    use hname
    rw [add, hverdict]
  · apply Or.inr (Or.inl _)
    use hname, found, hfound, hclaimed, hresembles
    rw [add, hverdict]
  · apply Or.inr (Or.inr _)
    use hname, hclaimed
    rw [add, hverdict]

/-- The addition of a section reports it once, unless there is a heading of its name. -/
theorem reportsOf_add (name : String) (demand : Demand) (added : String) :
  reportsOf name (assignment.add demand titles added).problems
    = reportsOf name assignment.problems + if name ∈ titles then 0 else [added].count name
  := by
  rw [ite_count_singleton (· ∈ titles)]
  rcases add_cases titles assignment demand added with
    ⟨hadded, hadd⟩ | ⟨hadded, found, -, -, -, hadd⟩ | ⟨hadded, -, hadd⟩
  · rw [hadd, if_pos hadded]
    rfl
  · rw [hadd, if_neg hadded, reportsOf_append]
    rfl
  · rw [hadd, if_neg hadded, reportsOf_append]
    rfl

/-- The state of an assignment agrees with the headings and with what has been reported: only
headings are taken, and the sections that are remembered as missing are the required ones that are
reported so. -/
structure Consistent (titles : List String) (assignment : Assignment) : Prop where
  /-- Only headings are taken. -/
  claimed_mem : ∀ found ∈ assignment.claimed, found ∈ titles
  /-- The sections that are missing are those that are reported as required and missing. -/
  missing_iff : ∀ name, name ∈ assignment.missing
    ↔ .missingSection .required name ∈ assignment.problems

theorem Consistent.empty (titles : List String) :
  Consistent titles empty
  := by
  constructor
  · intro found hfound
    cases hfound
  · intro name
    simp [Assignment.empty]

theorem Consistent.add (h : Consistent titles assignment) (demand : Demand) (name : String) :
  Consistent titles (assignment.add demand titles name)
  := by
  rcases add_cases titles assignment demand name with
    ⟨hname, hadd⟩ | ⟨-, found, hfound, -, -, hadd⟩ | ⟨-, -, hadd⟩
  · rw [hadd]
    constructor
    · simpa [hname] using h.claimed_mem
    · apply h.missing_iff
  · rw [hadd]
    constructor
    · simpa [hfound] using h.claimed_mem
    · simpa using h.missing_iff
  · rw [hadd]
    constructor
    · apply h.claimed_mem
    · intro other
      cases demand with
      | required => simp [h.missing_iff, or_comm]
      | additional => simp [h.missing_iff]

/-! ### All sections -/

theorem Consistent.addNew (h : Consistent titles assignment) (name : String) :
  Consistent titles (assignment.addNew titles name)
  := by
  rw [Assignment.addNew]
  split
  · apply h
  · apply h.add

@[simp]
theorem missing_addNew (name : String) :
  (assignment.addNew titles name).missing = assignment.missing
  := by
  rw [addNew]
  split
  · rfl
  · rcases add_cases titles assignment .additional name with
      ⟨-, hadd⟩ | ⟨-, found, -, -, -, hadd⟩ | ⟨-, -, hadd⟩
    · rw [hadd]
    · rw [hadd]
    · rw [hadd]
      rfl

/-- An additional section is reported once, unless there is a heading of its name or it is
remembered as missing. -/
theorem reportsOf_addNew (h : Consistent titles assignment) (name added : String) :
  reportsOf name (assignment.addNew titles added).problems
    = reportsOf name assignment.problems
      + if name ∈ titles ∨ name ∈ assignment.missing then 0 else [added].count name
  := by
  rw [addNew, ite_count_singleton fun name => name ∈ titles ∨ name ∈ assignment.missing]
  split
  · next hcovers =>
    rw [covers, Bool.or_eq_true, List.contains_iff_mem, List.contains_iff_mem] at hcovers
    rw [if_pos (hcovers.imp_left (h.claimed_mem added))]
    rfl
  · next hcovers =>
    rw [covers, Bool.or_eq_true, List.contains_iff_mem, List.contains_iff_mem, not_or] at hcovers
    rw [reportsOf_add, ite_count_singleton (· ∈ titles)]
    simp only [hcovers.2, or_false]

theorem Consistent.foldl_add (h : Consistent titles assignment) (demand : Demand)
    (names : List String) :
  Consistent titles (names.foldl (Assignment.add demand titles) assignment)
  := by
  induction names generalizing assignment with
  | nil => apply h
  | cons name names ih => apply ih (h.add demand name)

theorem Consistent.foldl_addNew (h : Consistent titles assignment) (names : List String) :
  Consistent titles (names.foldl (Assignment.addNew titles) assignment)
  := by
  induction names generalizing assignment with
  | nil => apply h
  | cons name names ih => apply ih (h.addNew name)

theorem missing_foldl_addNew (names : List String) :
  (names.foldl (addNew titles) assignment).missing = assignment.missing
  := by
  induction names generalizing assignment with
  | nil => rfl
  | cons name names ih => rw [List.foldl_cons, ih, missing_addNew]

theorem reportsOf_foldl_add (name : String) (demand : Demand) (names : List String) :
  reportsOf name (names.foldl (add demand titles) assignment).problems
    = reportsOf name assignment.problems + if name ∈ titles then 0 else names.count name
  := by
  induction names generalizing assignment with
  | nil => simp
  | cons added names ih =>
      have hcount : (added :: names).count name = [added].count name + names.count name :=
        @List.count_append _ _ name [added] names
      rw [List.foldl_cons, ih, reportsOf_add, hcount]
      split
      · rfl
      · omega

theorem reportsOf_foldl_addNew (h : Consistent titles assignment) (name : String)
    (names : List String) :
  reportsOf name (names.foldl (addNew titles) assignment).problems
    = reportsOf name assignment.problems
      + if name ∈ titles ∨ name ∈ assignment.missing then 0 else names.count name
  := by
  induction names generalizing assignment with
  | nil => simp
  | cons added names ih =>
      have hcount : (added :: names).count name = [added].count name + names.count name :=
        @List.count_append _ _ name [added] names
      rw [List.foldl_cons, ih (h.addNew added), reportsOf_addNew h, missing_addNew, hcount]
      split
      · rfl
      · omega

end Assignment

/-- A section is reported as often as it is asked for, except that it is not reported if there is a
heading of its name, and that the additional demands for it do not count if it is reported as
required and missing. -/
theorem reportsOf_sectionProblems (titles required additional : List String) (name : String) :
  reportsOf name (sectionProblems titles required additional)
    = if name ∈ titles then 0
      else required.count name
        + if .missingSection .required name ∈ sectionProblems titles required additional then 0
          else additional.count name
  := by
  have hrequired := (Assignment.Consistent.empty titles).foldl_add .required required
  have hmissing := (hrequired.foldl_addNew additional).missing_iff name
  rw [Assignment.missing_foldl_addNew] at hmissing
  have hempty : reportsOf name Assignment.empty.problems = 0 := rfl
  simp only [sectionProblems, Assignment.reportsOf_foldl_addNew hrequired,
    Assignment.reportsOf_foldl_add, hmissing, hempty]
  by_cases hname : name ∈ titles
  · simp [hname]
  · simp only [hname, false_or, if_false, Nat.zero_add]
    congr

/-- The tables have no problems of the kind that says of a section that it is missing or
misspelled. -/
theorem section?_tableProblems (readme : Readme) {problem : Problem}
    (h : problem ∈ readme.tableProblems) :
  problem.section? = none
  := by
  rw [Readme.tableProblems, List.mem_flatMap] at h
  obtain ⟨contract, -, h⟩ := h
  rw [List.mem_flatMap] at h
  obtain ⟨part, -, h⟩ := h
  rw [Section.tableProblems] at h
  split at h
  · rw [List.mem_singleton.mp h]
    rfl
  · split at h
    · rw [List.mem_singleton.mp h]
      rfl
    · rw [Contract.check, List.mem_append, List.mem_map, List.mem_map] at h
      rcases h with ⟨column, -, rfl⟩ | ⟨column, -, rfl⟩
      · rfl
      · rfl

/-- The problems of the tables that the check of the sections reports. -/
def tablesOf (readme : Readme) : List Problem :=
  match readme.layout with
  | .table => readme.tableProblems
  | .document => []

theorem section?_tablesOf (readme : Readme) {problem : Problem} (h : problem ∈ tablesOf readme) :
  problem.section? = none
  := by
  rw [tablesOf] at h
  split at h
  · apply section?_tableProblems readme h
  · cases h

theorem sections_ends (readme : Readme) (additional : List String) :
  Audit.Ends readme (sections readme additional)
    (.ok (sectionProblems readme.titles readme.layout.requiredSections additional
      ++ tablesOf readme))
  := by
  rw [sections, tablesOf]
  cases readme.layout with
  | table =>
      apply Audit.Ends.bind (Audit.ask_ends Session.tableProblems_answers)
      apply Audit.Ends.bind (Audit.note_ends _)
      apply Audit.Ends.pure
  | document =>
      apply Audit.Ends.bind (Audit.Ends.pure [])
      apply Audit.Ends.bind (Audit.note_ends _)
      apply Audit.Ends.pure

theorem requiredSections_nodup (layout : Layout) :
  layout.requiredSections.Nodup
  := by
  cases layout with
  | document => decide
  | table => decide

/-- The number of reports of a section, if no section is required twice. -/
theorem reportsOf_sectionProblems_of_nodup {required : List String} (h : required.Nodup)
    (titles additional : List String) (name : String) :
  reportsOf name (sectionProblems titles required additional)
    = if name ∈ titles then 0
      else if .missingSection .required name ∈ sectionProblems titles required additional then 1
      else (required ++ additional).count name
  := by
  have hreports := reportsOf_sectionProblems titles required additional name
  by_cases hname : name ∈ titles
  · rw [hreports, if_pos hname, if_pos hname]
  · rw [if_neg hname] at hreports ⊢
    by_cases hmissing :
        Problem.missingSection .required name ∈ sectionProblems titles required additional
    · -- The report shows that the section is required, and it is so only once.
      have hpos := reportsOf_pos_of_mem hmissing rfl
      have hcount := List.nodup_iff_count_le_one.mp h name
      rw [if_pos hmissing] at hreports ⊢
      omega
    · rw [if_neg hmissing] at hreports ⊢
      rw [hreports, List.count_append]

/-- The check of the sections always finds a list of problems, at any point of an audit. In that
list a section is reported as often as it is asked for, unless there is a heading of its name or it
is required and missing. In the first case it is not reported and in the second one once. Hence it
is reported at most once exactly in these two cases and if it is asked for at most once. -/
theorem sections_reportsOf_le_one_iff
    (readme : Readme) (additional : List String)
    (queries : List Query) (events : List Event) (requests : List String) :
  ∃ problems after,
    (sections readme additional).outcome (.afterQueries readme queries events requests)
        = (.ok problems, after)
      ∧ ∀ name,
        reportsOf name problems
            = (if name ∈ readme.titles then 0
              else if .missingSection .required name ∈ problems then 1
              else (readme.layout.requiredSections ++ additional).count name)
          ∧ (reportsOf name problems ≤ 1
            ↔ name ∈ readme.titles
              ∨ .missingSection .required name ∈ problems
              ∨ (readme.layout.requiredSections ++ additional).count name ≤ 1)
  := by
  have htrace := Trace.afterQueries_faithful readme queries events requests
  obtain ⟨after, houtcome, -⟩ := sections_ends readme additional _ htrace
  refine ⟨_, after, houtcome, ?_⟩
  intro name
  have htables : Problem.missingSection .required name ∉ tablesOf readme := by
    intro h
    cases section?_tablesOf readme h
  have hreports := reportsOf_sectionProblems_of_nodup
    (requiredSections_nodup readme.layout) readme.titles additional name
  simp only [List.mem_append, htables, or_false, reportsOf_append,
    reportsOf_eq_zero (fun _ => section?_tablesOf readme), Nat.add_zero]
  use hreports
  rw [hreports]
  split
  · next hname => simp [hname]
  · next hname =>
    split
    · next hmissing => simp [hmissing]
    · next hmissing => simp [hname, hmissing]

/-- A README with one section, whose heading is misspelled. -/
def misspelledReadme : Readme :=
  .read "## Resourses" (.fixed .document) []

/-- A required section that is misspelled is reported again as missing if it is also asked for as an
additional section, and an additional section that is asked for twice is reported twice. -/
theorem sections_reports_twice :
  ∃ problems after,
    (sections misspelledReadme ["Resources", "Goals", "Goals"]).outcome .empty
        = (.ok problems, after)
      ∧ .misspelledSection "Resourses" "Resources" ∈ problems
      ∧ .missingSection .additional "Resources" ∈ problems
      ∧ reportsOf "Resources" problems = 2
      ∧ reportsOf "Goals" problems = 2
  := by
  obtain ⟨after, houtcome, -⟩ := sections_ends misspelledReadme ["Resources", "Goals", "Goals"]
    .empty (Memo.empty_faithful misspelledReadme)
  have htitles : misspelledReadme.titles = ["Resourses"] := by decide +kernel
  have hlayout : misspelledReadme.layout = .document := rfl
  rw [htitles, tablesOf, hlayout] at houtcome
  refine ⟨_, after, houtcome, ?_⟩
  decide +kernel

end Check

end ReadmeAudit
