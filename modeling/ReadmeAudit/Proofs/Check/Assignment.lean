import ReadmeAudit.Proofs.Check.Sections
import ReadmeAudit.Proofs.Readme.Documentation
import ReadmeAudit.Proofs.SectionName

/-!
# Which heading is taken for which section

The check of the sections examines one section after the other. `examinations` is the record of
that: it says of each section that was examined who asked for it and what was found. The state of an
assignment can be read off the record, and what was found for a section is right in view of those
that were examined before it: no heading is taken twice for a misspelling, and a section is missing
only if all headings that resemble it are taken. A required section that is not missing has a
heading which resembles it, and if the headings are ASCII, then the heading also denotes it, so that
the other checks find the section.
-/

namespace ReadmeAudit

open Text

/-- The heading of which a problem says that it is misspelled. -/
def Problem.misspelling? : Problem → Option String
  | misspelledSection found _ => some found
  | _ => none

theorem Problem.misspelling?_eq_none {problem : Problem} (h : problem.section? = none) :
  problem.misspelling? = none
  := by
  cases problem with
  | misspelledSection found name => cases h
  | _ => rfl

namespace Check

/-- A section that was examined. -/
structure Examination where
  /-- Who asked for it. -/
  demand : Demand
  /-- Its name. -/
  name : String
  /-- What was found. -/
  verdict : Verdict
deriving Repr, DecidableEq

namespace Examination

/-- Who asked for which section. -/
def asked (examination : Examination) : Demand × String :=
  (examination.demand, examination.name)

/-- The heading that is taken for the section. -/
def claim? (examination : Examination) : Option String :=
  match examination.verdict with
  | .exact => some examination.name
  | .misspelled found => some found
  | .missing => none

/-- The problem that is reported about the section. -/
def problem? (examination : Examination) : Option Problem :=
  match examination.verdict with
  | .exact => none
  | .misspelled found => some (.misspelledSection found examination.name)
  | .missing => some (.missingSection examination.demand examination.name)

/-- The heading that is reported as a misspelling of the section. -/
def misspelling? (examination : Examination) : Option String :=
  examination.problem?.bind Problem.misspelling?

/-- The section, if it is remembered as missing. -/
def missing? (examination : Examination) : Option String :=
  if examination.verdict = .missing ∧ examination.demand = .required then some examination.name
  else none

/-- What was found for a section is right in view of the examinations before it. -/
def IsRight (titles : List String) (earlier : List Examination) (examination : Examination) :
    Prop :=
  match examination.verdict with
  | .exact => examination.name ∈ titles
  | .misspelled found =>
    examination.name ∉ titles ∧ found ∈ titles
      ∧ SectionName.resembles found examination.name = true
      ∧ ∀ other ∈ earlier, other.claim? ≠ some found
  | .missing =>
    examination.name ∉ titles
      ∧ ∀ found ∈ titles, SectionName.resembles found examination.name = true →
        ∃ other ∈ earlier, other.claim? = some found

end Examination

/-! ### The record of an assignment -/

/-- The assignment that a record leads to, where the last examination comes first. -/
def Assignment.ofRecord (record : List Examination) : Assignment :=
  ⟨record.filterMap Examination.claim?, record.filterMap Examination.missing?,
    (record.filterMap Examination.problem?).reverse⟩

/-- The record with the examination of one section more. -/
def examine (demand : Demand) (titles : List String) (record : List Examination) (name : String) :
    List Examination :=
  ⟨demand, name, (Assignment.ofRecord record).verdict titles name⟩ :: record

/-- The record with the examination of an additional section, unless that has been dealt with. -/
def examineNew (titles : List String) (record : List Examination) (name : String) :
    List Examination :=
  if (Assignment.ofRecord record).covers name then record
  else examine .additional titles record name

/-- The examinations of the sections that are required and additional, in order. -/
def examinations (titles required additional : List String) : List Examination :=
  (additional.foldl (examineNew titles) (required.foldl (examine .required titles) [])).reverse

variable {titles : List String} {record : List Examination}

theorem ofRecord_cons (examination : Examination) (record : List Examination) :
  Assignment.ofRecord (examination :: record)
    = ⟨examination.claim?.toList ++ (Assignment.ofRecord record).claimed,
        examination.missing?.toList ++ (Assignment.ofRecord record).missing,
        (Assignment.ofRecord record).problems ++ examination.problem?.toList⟩
  := by
  have hcons : ∀ {α : Type} (f : Examination → Option α),
      (examination :: record).filterMap f = (f examination).toList ++ record.filterMap f := by
    intro α f
    cases h : f examination with
    | none => simp [h]
    | some value => simp [h]
  rw [Assignment.ofRecord, hcons, hcons, hcons, List.reverse_append]
  cases examination.problem? with
  | none => rfl
  | some problem => rfl

theorem ofRecord_examine (demand : Demand) (name : String) :
  Assignment.ofRecord (examine demand titles record name)
    = (Assignment.ofRecord record).add demand titles name
  := by
  rw [examine, ofRecord_cons, Assignment.add]
  cases (Assignment.ofRecord record).verdict titles name with
  | exact => simp [Examination.claim?, Examination.missing?, Examination.problem?]
  | misspelled found => simp [Examination.claim?, Examination.missing?, Examination.problem?]
  | missing =>
      cases demand with
      | required => rfl
      | additional => rfl

theorem ofRecord_examineNew (name : String) :
  Assignment.ofRecord (examineNew titles record name)
    = (Assignment.ofRecord record).addNew titles name
  := by
  rw [examineNew, Assignment.addNew]
  split
  · rfl
  · apply ofRecord_examine

/-- The problems with the sections are those of their examinations. -/
theorem sectionProblems_eq (titles required additional : List String) :
  sectionProblems titles required additional
    = (examinations titles required additional).filterMap Examination.problem?
  := by
  have hempty : Assignment.empty = Assignment.ofRecord [] := rfl
  rw [sectionProblems, examinations, List.filterMap_reverse, hempty,
    List.foldl_hom Assignment.ofRecord fun _ _ => (ofRecord_examine .required _).symm,
    List.foldl_hom Assignment.ofRecord fun _ _ => (ofRecord_examineNew _).symm]
  rfl

theorem map_foldl_examine (names : List String) :
  ((names.foldl (examine .required titles) record).map Examination.asked).reverse
    = (record.map Examination.asked).reverse ++ names.map (Prod.mk .required)
  := by
  induction names generalizing record with
  | nil => simp
  | cons name names ih => simp [ih, examine, Examination.asked]

theorem exists_map_foldl_examineNew (names : List String) :
  ∃ examined : List String, examined.Sublist names
    ∧ ((names.foldl (examineNew titles) record).map Examination.asked).reverse
      = (record.map Examination.asked).reverse ++ examined.map (Prod.mk .additional)
  := by
  induction names generalizing record with
  | nil => use [], List.Sublist.refl []; simp
  | cons name names ih =>
      obtain ⟨examined, hsublist, hmap⟩ := @ih (examineNew titles record name)
      rw [List.foldl_cons, hmap, examineNew]
      split
      · use examined, hsublist.cons name
      · use name :: examined, hsublist.cons_cons name
        simp [examine, Examination.asked]

/-- All required sections are examined, in order, and after them some of the additional ones, in
order. -/
theorem exists_map_examinations (titles required additional : List String) :
  ∃ examined : List String, examined.Sublist additional
    ∧ (examinations titles required additional).map Examination.asked
      = required.map (Prod.mk .required) ++ examined.map (Prod.mk .additional)
  := by
  obtain ⟨examined, hsublist, hmap⟩ := exists_map_foldl_examineNew additional
  use examined, hsublist
  rw [examinations, List.map_reverse, hmap, map_foldl_examine]
  rfl

/-! ### What was found is right -/

/-- A record is sound if each examination is right in view of those before it. -/
def Sound (titles : List String) : (record : List Examination) → Prop
  | [] => True
  | examination :: record => examination.IsRight titles record ∧ Sound titles record

theorem mem_claimed_ofRecord_iff {found : String} :
  found ∈ (Assignment.ofRecord record).claimed ↔ ∃ other ∈ record, other.claim? = some found
  := List.mem_filterMap

theorem Sound.examine (h : Sound titles record) (demand : Demand) (name : String) :
  Sound titles (examine demand titles record name)
  := by
  refine ⟨?_, h⟩
  rcases Assignment.verdict_cases titles (.ofRecord record) name with
    ⟨hname, hverdict⟩ | ⟨hname, found, hfound, hclaimed, hresembles, hverdict⟩
      | ⟨hname, hclaimed, hverdict⟩
  · rw [hverdict]
    apply hname
  · rw [mem_claimed_ofRecord_iff, not_exists] at hclaimed
    rw [hverdict]
    refine ⟨hname, hfound, hresembles, ?_⟩
    intro other hother hclaim
    apply hclaimed other ⟨hother, hclaim⟩
  · rw [hverdict]
    use hname
    intro found hfound hresembles
    apply mem_claimed_ofRecord_iff.mp (hclaimed found hfound hresembles)

theorem Sound.examineNew (h : Sound titles record) (name : String) :
  Sound titles (examineNew titles record name)
  := by
  rw [Check.examineNew]
  split
  · apply h
  · apply h.examine

theorem Sound.foldl {step : List Examination → String → List Examination}
    (hstep : ∀ {record}, Sound titles record → ∀ name, Sound titles (step record name))
    (h : Sound titles record) (names : List String) :
  Sound titles (names.foldl step record)
  := by
  induction names generalizing record with
  | nil => apply h
  | cons name names ih => apply ih (hstep h name)

/-- The examinations of all sections are sound. -/
theorem examinations_sound (titles required additional : List String) :
  Sound titles (examinations titles required additional).reverse
  := by
  rw [examinations, List.reverse_reverse]
  apply Sound.foldl Sound.examineNew
  apply Sound.foldl fun h => h.examine .required
  trivial

theorem Sound.isRight {later earlier : List Examination} {examination : Examination}
    (h : Sound titles (later ++ examination :: earlier)) :
  examination.IsRight titles earlier
  := by
  induction later with
  | nil => apply h.1
  | cons other later ih => apply ih h.2

/-- What was found for a section is right in view of the examinations before it. -/
theorem isRight_of_examinations_eq {required additional : List String}
    {earlier later : List Examination} {examination : Examination}
    (h : examinations titles required additional = earlier ++ examination :: later) :
  examination.IsRight titles earlier.reverse
  := by
  have hsound := examinations_sound titles required additional
  rw [h, List.reverse_append, List.reverse_cons, List.append_assoc, List.singleton_append] at hsound
  apply hsound.isRight

/-! ### What is reported -/

namespace Examination

/-- A heading is taken for a section because it has its name, or it is reported as a misspelling of
it. -/
theorem claim?_eq_some_iff {examination : Examination} {found : String} :
  examination.claim? = some found
    ↔ examination.verdict = .exact ∧ examination.name = found
      ∨ examination.problem? = some (.misspelledSection found examination.name)
  := by
  rw [claim?, problem?]
  cases examination.verdict with
  | exact => simp
  | misspelled other => simp
  | missing => simp

/-- A problem says what was found: a misspelling, or nothing. -/
theorem problem?_cases {examination : Examination} {problem : Problem}
    (h : examination.problem? = some problem) :
  (∃ found, examination.verdict = .misspelled found
      ∧ problem = .misspelledSection found examination.name)
    ∨ examination.verdict = .missing
      ∧ problem = .missingSection examination.demand examination.name
  := by
  rw [problem?] at h
  cases hverdict : examination.verdict with
  | exact =>
      rw [hverdict] at h
      cases h
  | misspelled found =>
      rw [hverdict] at h
      apply Or.inl
      use found, rfl, (Option.some.inj h).symm
  | missing =>
      rw [hverdict] at h
      apply Or.inr
      use rfl, (Option.some.inj h).symm

theorem verdict_of_misspelling {examination : Examination} {found : String}
    (h : examination.misspelling? = some found) :
  examination.verdict = .misspelled found
  := by
  obtain ⟨problem, hproblem, hfound⟩ := Option.bind_eq_some_iff.mp h
  obtain ⟨other, hverdict, rfl⟩ | ⟨-, rfl⟩ := problem?_cases hproblem
  · rw [hverdict, Option.some.inj hfound]
  · cases hfound

section

variable {earlier : List Examination} {examination : Examination}

/-- A section that is reported has no heading of its name. -/
theorem IsRight.notMem (h : examination.IsRight titles earlier) {problem : Problem}
    (hproblem : examination.problem? = some problem) :
  problem.section? = some examination.name ∧ examination.name ∉ titles
  := by
  obtain ⟨found, hverdict, rfl⟩ | ⟨hverdict, rfl⟩ := problem?_cases hproblem
  · rw [IsRight, hverdict] at h
    use rfl, h.1
  · rw [IsRight, hverdict] at h
    use rfl, h.1

/-- What is reported as a misspelling of a section is a heading that resembles it. -/
theorem IsRight.misspelled (h : examination.IsRight titles earlier) {found name : String}
    (hproblem : examination.problem? = some (.misspelledSection found name)) :
  found ∈ titles ∧ SectionName.resembles found name = true
  := by
  obtain ⟨other, hverdict, heq⟩ | ⟨-, heq⟩ := problem?_cases hproblem
  · cases heq
    rw [IsRight, hverdict] at h
    use h.2.1, h.2.2.1
  · cases heq

/-- The headings that resemble a section which is reported as missing are taken. -/
theorem IsRight.missing (h : examination.IsRight titles earlier) {demand : Demand} {name : String}
    (hproblem : examination.problem? = some (.missingSection demand name)) :
  ∀ found ∈ titles, SectionName.resembles found name = true →
    ∃ other ∈ earlier, other.claim? = some found
  := by
  obtain ⟨other, -, heq⟩ | ⟨hverdict, heq⟩ := problem?_cases hproblem
  · cases heq
  · cases heq
    rw [IsRight, hverdict] at h
    apply h.2

end

end Examination

/-- No heading is reported as a misspelling twice. -/
theorem Sound.nodup_misspellings (h : Sound titles record) :
  (record.filterMap Examination.misspelling?).Nodup
  := by
  induction record with
  | nil => apply List.nodup_nil
  | cons examination record ih =>
      cases hfound : examination.misspelling? with
      | none =>
          rw [List.filterMap_cons_none hfound]
          apply ih h.2
      | some found =>
          have hright := h.1
          rw [Examination.IsRight, Examination.verdict_of_misspelling hfound] at hright
          rw [List.filterMap_cons_some hfound, List.nodup_cons]
          refine ⟨?_, ih h.2⟩
          intro hmem
          obtain ⟨other, hother, hfound'⟩ := List.mem_filterMap.mp hmem
          apply hright.2.2.2 other hother
          rw [Examination.claim?, Examination.verdict_of_misspelling hfound']

theorem exists_isRight_of_mem {required additional : List String} {examination : Examination}
    (h : examination ∈ examinations titles required additional) :
  ∃ earlier, examination.IsRight titles earlier
  := by
  obtain ⟨earlier, later, heq⟩ := List.append_of_mem h
  use earlier.reverse, isRight_of_examinations_eq heq

/-- It is not reported of a section that it is missing or misspelled if there is a heading of its
name. -/
theorem notMem_titles_of_section? {readme : Readme} {additional : List String} {problem : Problem}
    (h : problem ∈ (examinations readme.titles readme.layout.requiredSections additional).filterMap
      Examination.problem? ++ tablesOf readme)
    {name : String} (hname : problem.section? = some name) :
  name ∉ readme.titles
  := by
  rcases List.mem_append.mp h with hmem | hmem
  · obtain ⟨examination, hexamination, hproblem⟩ := List.mem_filterMap.mp hmem
    obtain ⟨earlier, hright⟩ := exists_isRight_of_mem hexamination
    obtain ⟨hsection, hnotMem⟩ := hright.notMem hproblem
    rw [hname] at hsection
    rw [Option.some.inj hsection]
    apply hnotMem
  · rw [section?_tablesOf readme hmem] at hname
    cases hname

/-- No heading is reported as a misspelling twice. -/
theorem nodup_misspelling? (readme : Readme) (additional : List String) :
  (((examinations readme.titles readme.layout.requiredSections additional).filterMap
    Examination.problem? ++ tablesOf readme).filterMap Problem.misspelling?).Nodup
  := by
  have hmisspelling : ∀ problem ∈ tablesOf readme, problem.misspelling? = none := by
    intro problem hproblem
    apply Problem.misspelling?_eq_none (section?_tablesOf readme hproblem)
  rw [List.filterMap_append, List.filterMap_filterMap,
    List.filterMap_eq_nil_iff.mpr hmisspelling, List.append_nil]
  have hnodup := (examinations_sound readme.titles readme.layout.requiredSections
    additional).nodup_misspellings
  rw [List.filterMap_reverse, List.nodup_reverse] at hnodup
  apply hnodup

/-- The check of the sections of a README always finds a list of problems, at any point of an audit.
These are the problems of the sections that are examined, all required ones and after them some of
the additional ones, and those of the tables. It is not reported of a section that it is missing or
misspelled if there is a heading of its name. No heading is reported as a misspelling twice, and
each one that is resembles the section that it is reported for. A section is missing only if every
heading that resembles it has been taken before, by a section that has its name or for a misspelling
that is reported. -/
theorem sections_assignment_sound
    (readme : Readme) (additional : List String)
    (queries : List Query) (events : List Event) (requests : List String) :
  let examined := examinations readme.titles readme.layout.requiredSections additional
  ∃ problems after,
    (sections readme additional).outcome (.afterQueries readme queries events requests)
        = (.ok problems, after)
      ∧ problems = examined.filterMap Examination.problem? ++ tablesOf readme
      ∧ (∃ chosen : List String, chosen.Sublist additional
        ∧ examined.map Examination.asked
          = readme.layout.requiredSections.map (Prod.mk .required)
            ++ chosen.map (Prod.mk .additional))
      ∧ (∀ problem ∈ problems, ∀ name, problem.section? = some name → name ∉ readme.titles)
      ∧ (problems.filterMap Problem.misspelling?).Nodup
      ∧ (∀ found name, .misspelledSection found name ∈ problems →
        found ∈ readme.titles ∧ SectionName.resembles found name = true)
      ∧ ∀ earlier examination later, examined = earlier ++ examination :: later →
        examination.problem? = some (.missingSection examination.demand examination.name) →
        examination.name ∉ readme.titles
          ∧ ∀ found ∈ readme.titles, SectionName.resembles found examination.name = true →
            ∃ other ∈ earlier, other.verdict = .exact ∧ other.name = found
              ∨ other.problem? = some (.misspelledSection found other.name)
  := by
  intro examined
  have htrace := Trace.afterQueries_faithful readme queries events requests
  obtain ⟨after, houtcome, -⟩ := sections_ends readme additional _ htrace
  rw [sectionProblems_eq] at houtcome
  refine ⟨_, after, houtcome, rfl, exists_map_examinations _ _ _, ?_, ?_, ?_, ?_⟩
  · intro problem hproblem name
    apply notMem_titles_of_section? hproblem
  · apply nodup_misspelling?
  · intro found name hproblem
    rcases List.mem_append.mp hproblem with hmem | hmem
    · obtain ⟨examination, hexamination, hproblem⟩ := List.mem_filterMap.mp hmem
      obtain ⟨earlier, hright⟩ := exists_isRight_of_mem hexamination
      apply hright.misspelled hproblem
    · cases section?_tablesOf readme hmem
  · intro earlier examination later hexamined hmissing
    have hright := isRight_of_examinations_eq hexamined
    use (hright.notMem hmissing).2
    intro found hfound hresembles
    obtain ⟨other, hother, hclaim⟩ := hright.missing hmissing found hfound hresembles
    use other, List.mem_reverse.mp hother
    apply Examination.claim?_eq_some_iff.mp hclaim

/-! ### Sections that the other checks find -/

/-- The name of a required section is ASCII, and it is neither empty nor has blanks around it. -/
theorem requiredSections_ascii (layout : Layout) :
  ∀ name ∈ layout.requiredSections, IsAscii name ∧ name ≠ "" ∧ strip name = name
  := by
  cases layout with
  | document => decide +kernel
  | table => decide +kernel

/-- A title is that of a section, and it is neither empty nor has blanks around it. -/
theorem exists_of_mem_titles {readme : Readme} {title : String} (h : title ∈ readme.titles) :
  (∃ part ∈ readme.sections, part.title = title) ∧ title ≠ "" ∧ strip title = title
  := by
  rw [Readme.titles, List.mem_filter, List.mem_map] at h
  obtain ⟨⟨part, hpart, rfl⟩, hempty⟩ := h
  refine ⟨⟨part, hpart, rfl⟩, by simpa using hempty, ?_⟩
  rw [readme.sections_eq, Section.ofRoot, List.mem_map] at hpart
  obtain ⟨⟨place, number⟩, -, rfl⟩ := hpart
  apply strip_strip

/-- A name denotes a section if there is an ASCII title that resembles it. -/
theorem hasSection_of_resembles {readme : Readme} {title name : String}
    (htitle : title ∈ readme.titles) (hascii : IsAscii title)
    (hname : name ∈ readme.layout.requiredSections)
    (h : SectionName.resembles title name = true) :
  readme.hasSection name = true
  := by
  obtain ⟨⟨part, hpart, rfl⟩, hempty, hstrip⟩ := exists_of_mem_titles htitle
  obtain ⟨hascii', hempty', hstrip'⟩ := requiredSections_ascii _ name hname
  have hdenotes := SectionName.denotes_of_resembles hascii hascii' hempty hempty' hstrip hstrip' h
  rw [Readme.hasSection, Bool.not_eq_true', List.isEmpty_eq_false_iff_exists_mem]
  use part, Readme.mem_denoted_iff.mpr ⟨hpart, hdenotes⟩

/-- A required section that is not reported as missing has a heading that resembles it. -/
theorem exists_resembles_of_not_missing {titles required additional : List String} {name : String}
    (hname : name ∈ required)
    (h : .missingSection .required name ∉ sectionProblems titles required additional) :
  ∃ title ∈ titles, SectionName.resembles title name = true
  := by
  obtain ⟨chosen, -, hasked⟩ := exists_map_examinations titles required additional
  have hmem : (Demand.required, name)
      ∈ (examinations titles required additional).map Examination.asked := by
    rw [hasked]
    apply List.mem_append_left _ (List.mem_map_of_mem hname)
  obtain ⟨⟨demand, name, verdict⟩, hexamined, heq⟩ := List.mem_map.mp hmem
  cases heq
  obtain ⟨earlier, hright⟩ := exists_isRight_of_mem hexamined
  cases verdict with
  | exact =>
      use name, hright
      apply SectionName.resembles_iff.mpr (Or.inr rfl)
  | misspelled found => use found, hright.2.1, hright.2.2.1
  | missing =>
      exfalso
      apply h
      rw [sectionProblems_eq]
      apply List.mem_filterMap.mpr
      exact ⟨_, hexamined, rfl⟩

/-- An ASCII heading that resembles a name denotes it, if neither is empty nor has blanks around it.
So if the titles of a README are ASCII, then each required section that the check of the sections
does not report as missing is one that the README has, and it is found in the session after the
check. -/
theorem sections_not_missing_denoted :
  (∀ found name : String, IsAscii found → IsAscii name → found ≠ "" → name ≠ "" →
      strip found = found → strip name = name →
      SectionName.resembles found name = true → SectionName.denotes found name = true)
    ∧ ∀ (readme : Readme) (additional : List String) (queries : List Query) (events : List Event)
        (requests : List String), (∀ title ∈ readme.titles, IsAscii title) →
      ∃ problems after,
        (sections readme additional).outcome (.afterQueries readme queries events requests)
            = (.ok problems, after)
          ∧ ∀ name ∈ readme.layout.requiredSections, .missingSection .required name ∉ problems →
            readme.hasSection name = true
              ∧ ((Session.hasSection readme name).run after.memo).1 = true
  := by
  constructor
  · intro found name hfound hname hempty hempty' hstrip hstrip'
    apply SectionName.denotes_of_resembles hfound hname hempty hempty' hstrip hstrip'
  · intro readme additional queries events requests hascii
    have htrace := Trace.afterQueries_faithful readme queries events requests
    obtain ⟨after, houtcome, hafter⟩ := sections_ends readme additional _ htrace
    refine ⟨_, after, houtcome, ?_⟩
    intro name hname hmissing
    rw [List.mem_append, not_or] at hmissing
    obtain ⟨title, htitle, hresembles⟩ := exists_resembles_of_not_missing hname hmissing.1
    have hsection := hasSection_of_resembles htitle (hascii title htitle) hname hresembles
    use hsection
    rw [(Session.hasSection_answers name after.memo hafter).1, hsection]

/-- A section whose only heading is misspelled is found. -/
theorem sections_not_missing_denoted_misspelled :
  (∀ title ∈ misspelledReadme.titles, IsAscii title)
    ∧ SectionName.resembles "Resourses" "Resources" = true
    ∧ SectionName.denotes "Resourses" "Resources" = true
    ∧ ∃ problems after,
      (sections misspelledReadme []).outcome (.afterQueries misspelledReadme [] [] [])
          = (.ok problems, after)
        ∧ .misspelledSection "Resourses" "Resources" ∈ problems
        ∧ .missingSection .required "Resources" ∉ problems
        ∧ misspelledReadme.hasSection "Resources" = true
  := by
  have htitles : misspelledReadme.titles = ["Resourses"] := by decide +kernel
  have hascii : ∀ title ∈ misspelledReadme.titles, IsAscii title := by
    rw [htitles]
    decide +kernel
  have hresembles : SectionName.resembles "Resourses" "Resources" = true := by decide +kernel
  obtain ⟨hlaw, hsections⟩ := sections_not_missing_denoted
  obtain ⟨problems, after, houtcome, hfound⟩ := hsections misspelledReadme [] [] [] [] hascii
  obtain ⟨after', houtcome', -⟩ := sections_ends misspelledReadme [] _
    (Trace.afterQueries_faithful misspelledReadme [] [] [])
  rw [houtcome, htitles] at houtcome'
  have hproblems := Except.ok.inj (Prod.mk.inj houtcome').1
  have hmissing : .missingSection .required "Resources" ∉ problems := by
    rw [hproblems]
    decide +kernel
  refine ⟨hascii, hresembles, ?_, problems, after, houtcome, ?_, hmissing, ?_⟩
  · apply hlaw _ _ _ _ _ _ _ _ hresembles
    all_goals decide +kernel
  · rw [hproblems]
    decide +kernel
  · apply (hfound "Resources" (by decide +kernel) hmissing).1

end Check

end ReadmeAudit
