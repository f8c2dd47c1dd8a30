import ReadmeAudit.Check.Items
import ReadmeAudit.Proofs.Readme.Range
import ReadmeAudit.Proofs.SectionName

/-!
# Sections that overlap

A README is asked for its sections by name, and one heading may be found under several names. In the
table layout this can happen with the inputs and the outputs only: an ambiguous heading is read for
both, and the table under it is checked against both contracts. Every other heading is read under
one name at most. In the document layout no heading is read for two sections, and so none is read
both for the variables and for the outputs or the resources.
-/

namespace ReadmeAudit

open Text Markdown SectionName

namespace Readme

/-- The heading at an address is read when the items of the sections of some names are asked for. -/
def ReadsAt (readme : Readme) (names : List String) (address : Address) : Prop :=
  ∃ part ∈ Section.merge (names.map readme.denoted), part.StandsAt readme.root address

/-- The table at an address is checked against the contract of a name. -/
def ChecksAt (readme : Readme) (name : String) (address : Address) : Prop :=
  ∃ contract ∈ Contract.all, contract.name = name
    ∧ ∃ part ∈ readme.denoted contract.name, part.TableStandsAt readme.root address

variable {readme : Readme} {address : Address}

theorem mem_ofRoot_of_mem_sections {part : Section} (h : part ∈ readme.sections) :
  part ∈ Section.ofRoot readme.root
  := by
  rwa [← readme.sections_eq]

theorem readsAt_iff {names : List String} :
  readme.ReadsAt names address
    ↔ ∃ part ∈ readme.sections, (∃ name ∈ names, denotes part.title name = true)
      ∧ part.StandsAt readme.root address
  := by
  simp [ReadsAt, and_assoc]

theorem readsAt_singleton_iff {name : String} :
  readme.ReadsAt [name] address
    ↔ ∃ part ∈ readme.sections, denotes part.title name = true
      ∧ part.StandsAt readme.root address
  := by
  simp only [readsAt_iff, List.mem_singleton, exists_eq_left]

theorem checksAt_iff {name : String} :
  readme.ChecksAt name address
    ↔ name ∈ Layout.table.requiredSections
      ∧ ∃ part ∈ readme.sections, denotes part.title name = true
        ∧ part.TableStandsAt readme.root address
  := by
  have hnames : Layout.table.requiredSections = Contract.all.map Contract.name := by decide
  rw [hnames, List.mem_map]
  constructor
  · rintro ⟨contract, hcontract, rfl, part, hpart, hstands⟩
    rw [mem_denoted_iff] at hpart
    use ⟨contract, hcontract, rfl⟩, part, hpart.1, hpart.2
  · rintro ⟨⟨contract, hcontract, rfl⟩, part, hpart, hdenotes, hstands⟩
    use contract, hcontract, rfl, part, mem_denoted_iff.mpr ⟨hpart, hdenotes⟩

/-- The tables that are checked against a contract are those of the sections that its name
denotes. -/
theorem exists_checksAt_iff {name : String} {table : Node} :
  (∃ address after, readme.ChecksAt name address
      ∧ Place.at? ⟨readme.root, []⟩ address = some ⟨table, after⟩)
    ↔ name ∈ Layout.table.requiredSections
      ∧ ∃ part ∈ readme.denoted name, part.table? = some table
  := by
  simp only [checksAt_iff, mem_denoted_iff]
  constructor
  · rintro ⟨address, after, ⟨hname, part, hpart, hdenotes, hstands⟩, hat⟩
    use hname, part, ⟨hpart, hdenotes⟩
    apply (Section.table?_eq_some_iff (mem_ofRoot_of_mem_sections hpart)).mpr
    use address, after, hstands
  · rintro ⟨hname, part, ⟨hpart, hdenotes⟩, htable⟩
    obtain ⟨address, after, hstands, hat⟩ :=
      (Section.table?_eq_some_iff (mem_ofRoot_of_mem_sections hpart)).mp htable
    use address, after, ⟨hname, part, hpart, hdenotes, hstands⟩

/-- What belongs to one section only is found under two names if these denote the same section. -/
theorem exists_and_exists_iff {P : Section → Prop}
    (hP : ∀ part ∈ readme.sections, ∀ other ∈ readme.sections, P part → P other → part = other)
    {first second : String} :
  (∃ part ∈ readme.sections, denotes part.title first = true ∧ P part)
      ∧ (∃ part ∈ readme.sections, denotes part.title second = true ∧ P part)
    ↔ ∃ part ∈ readme.sections, P part
      ∧ denotes part.title first = true ∧ denotes part.title second = true
  := by
  constructor
  · rintro ⟨⟨part, hpart, hfirst, h⟩, other, hother, hsecond, h'⟩
    obtain rfl := hP part hpart other hother h h'
    use part, hpart, h, hfirst
  · rintro ⟨part, hpart, h, hfirst, hsecond⟩
    use ⟨part, hpart, hfirst, h⟩, part, hpart, hsecond

/-- The headings that are read both for the inputs and for the outputs are the ambiguous ones. -/
theorem readsAt_and_readsAt_iff :
  readme.ReadsAt ["Inputs"] address ∧ readme.ReadsAt ["Outputs"] address
    ↔ ∃ part ∈ readme.sections, part.StandsAt readme.root address ∧ Ambiguous part.title
  := by
  rw [readsAt_singleton_iff, readsAt_singleton_iff, exists_and_exists_iff]
  · simp only [denotes_inputs_and_outputs_iff]
  · intro part hpart other hother h h'
    apply h.eq (mem_ofRoot_of_mem_sections hpart) (mem_ofRoot_of_mem_sections hother) h'

/-- The tables that are checked against two contracts are those under ambiguous headings. -/
theorem checksAt_and_checksAt_iff {first second : String} :
  (first ≠ second ∧ readme.ChecksAt first address ∧ readme.ChecksAt second address)
    ↔ s(first, second) = s("Inputs", "Outputs")
      ∧ ∃ part ∈ readme.sections, part.TableStandsAt readme.root address ∧ Ambiguous part.title
  := by
  simp only [checksAt_iff]
  constructor
  · rintro ⟨hne, ⟨hfirst, hfound⟩, hsecond, hfound'⟩
    have hboth := (exists_and_exists_iff fun part hpart other hother h h' =>
      h.eq (mem_ofRoot_of_mem_sections hpart) (mem_ofRoot_of_mem_sections hother) h').mp
        ⟨hfound, hfound'⟩
    obtain ⟨part, hpart, hstands, hdenotes⟩ := hboth
    obtain ⟨hpair, hambiguous⟩ := denotes_both_iff.mp ⟨hfirst, hsecond, hne, hdenotes⟩
    use hpair, part, hpart, hstands
  · rintro ⟨hpair, part, hpart, hstands, hambiguous⟩
    obtain ⟨hfirst, hsecond, hne, h, h'⟩ := denotes_both_iff.mpr ⟨hpair, hambiguous⟩
    use hne, ⟨hfirst, part, hpart, h, hstands⟩, hsecond, part, hpart, h'

/-- Which sections of the table layout overlap. One heading denotes two of them exactly if it is
ambiguous and they are the inputs and the outputs, and no heading is ambiguous that is the name of a
section up to case. The headings that are read both for the inputs and for the outputs are the
ambiguous ones, and the tables that are checked against two contracts are those of sections with
such a heading. The tables that are checked are the tables of the sections that the names of the
contracts denote. -/
theorem table_sections_overlap_iff (readme : Readme) :
  (∀ heading first second,
      (first ∈ Layout.table.requiredSections ∧ second ∈ Layout.table.requiredSections
          ∧ first ≠ second ∧ denotes heading first = true ∧ denotes heading second = true)
        ↔ s(first, second) = s("Inputs", "Outputs") ∧ Ambiguous heading)
    ∧ (∀ heading,
      ¬ (Ambiguous heading
        ∧ lower (strip heading) ∈ Layout.table.requiredSections.map lower))
    ∧ (∀ address,
      readme.ReadsAt ["Inputs"] address ∧ readme.ReadsAt ["Outputs"] address
        ↔ ∃ part ∈ readme.sections, part.StandsAt readme.root address ∧ Ambiguous part.title)
    ∧ (∀ address first second,
      (first ≠ second ∧ readme.ChecksAt first address ∧ readme.ChecksAt second address)
        ↔ s(first, second) = s("Inputs", "Outputs")
          ∧ ∃ part ∈ readme.sections, part.TableStandsAt readme.root address
            ∧ Ambiguous part.title)
    ∧ ∀ name table,
      (∃ address after, readme.ChecksAt name address
          ∧ Place.at? ⟨readme.root, []⟩ address = some ⟨table, after⟩)
        ↔ name ∈ Layout.table.requiredSections
          ∧ ∃ part ∈ readme.denoted name, part.table? = some table
  := by
  use fun _ _ _ => denotes_both_iff
  use fun _ h => h.1.lower_notMem h.2
  use fun _ => readsAt_and_readsAt_iff
  use fun _ _ _ => checksAt_and_checksAt_iff
  intro name table
  apply exists_checksAt_iff

/-- A README with a table of one output under a misspelled heading. -/
def ouputsReadme : Readme :=
  let row (cell : Kind) (name description : String) : Node :=
    .mk .tableRow [.mk cell [.leaf (.text name)], .mk cell [.leaf (.text description)]]
  let root : Node := .mk .root [
    .mk (.heading 2) [.leaf (.text "Ouputs")],
    .mk .table [
      .mk .tableHead [row .headerCell "Name" "Description"],
      .mk .tableBody [row .dataCell "vpc_id" "The network"]]]
  ⟨"", root, [], Section.ofRoot root, none, .table, rfl⟩

/-- A heading for the outputs with one letter missing is read for the inputs as well, and its table
is checked against the contract of the inputs. -/
theorem ouputs_read_twice :
  denotes "Ouputs" "Inputs" = true
    ∧ denotes "Ouputs" "Outputs" = true
    ∧ ouputsReadme.items ["Inputs"] = ["vpc_id"]
    ∧ ouputsReadme.items ["Outputs"] = ["vpc_id"]
    ∧ ouputsReadme.tableProblems = [.missingColumn "Required" "Inputs"]
  := by
  decide +kernel

/-! ### The document layout -/

/-- A heading that is read for two lists of sections is read for one that is in both. -/
theorem exists_mem_of_readsAt {names others : List String}
    (hnames : names ⊆ Layout.document.requiredSections)
    (hothers : others ⊆ Layout.document.requiredSections)
    (h : readme.ReadsAt names address) (h' : readme.ReadsAt others address) :
  ∃ name ∈ names, name ∈ others
  := by
  obtain ⟨part, hpart, ⟨name, hname, hdenotes⟩, hstands⟩ := readsAt_iff.mp h
  obtain ⟨part', hpart', ⟨other, hother, hdenotes'⟩, hstands'⟩ := readsAt_iff.mp h'
  obtain rfl := hstands.eq (mem_ofRoot_of_mem_sections hpart) (mem_ofRoot_of_mem_sections hpart')
    hstands'
  obtain rfl := eq_of_denotes (hnames hname) (hothers hother) hdenotes hdenotes'
  use name, hname

/-- The sections of the document layout are kept apart. A heading denotes those of them, at most
one, whose names it misspells by the tolerated number of typing errors; and no heading of a README
is read both for the variables and for the outputs or the resources. -/
theorem document_sections_apart (readme : Readme) :
  (∀ heading, (Layout.document.requiredSections.filter (denotes heading)).length ≤ 1)
    ∧ (∀ heading name,
      name ∈ Layout.document.requiredSections.filter (denotes heading)
        ↔ name ∈ Layout.document.requiredSections
          ∧ editDistance (lower (strip heading)) (lower name) ≤ maxTypos)
    ∧ ∀ address,
      ¬ (readme.ReadsAt (Check.ItemType.inputs .document).sections address
        ∧ (readme.ReadsAt Check.ItemType.outputs.sections address
          ∨ readme.ReadsAt ["Resources"] address))
  := by
  use length_filter_denotes_le_one
  constructor
  · intro heading name
    rw [List.mem_filter]
    apply and_congr_right
    apply denotes_iff_editDistance_le
  · rintro address ⟨hinputs, houtputs | hresources⟩
    · have hcommon := exists_mem_of_readsAt (by decide) (by decide) hinputs houtputs
      revert hcommon
      decide
    · have hcommon := exists_mem_of_readsAt (by decide) (by decide) hinputs hresources
      revert hcommon
      decide

end Readme

end ReadmeAudit
