import ReadmeAudit.Proofs.Readme.Origin

/-!
# Tables and their contracts

The table of a section is checked against the contract of each name that denotes the section. Which
table that is, and what its header has to be, is said here in terms of the siblings after the
heading: `Section.FirstTable` is the table that counts, `Contract.Fulfilled` says that it is there
and has the right columns, and `Contract.Findings` says what is reported if it is not so. The
problems of all tables are these findings, heading by heading, and there are none exactly if every
contract is fulfilled under every heading that its name denotes.
-/

namespace ReadmeAudit

open Text Markdown

/-! ### The table that counts -/

namespace Section

/-- A node ends the section before it if it is a heading of level 2 or 1. -/
def EndedBy (node : Node) : Prop :=
  ∃ level ≤ 2, node.headingLevel? = some level

/-- A node is the first table among the siblings after a heading: no other table is before it, and
nothing that ends the section. -/
structure FirstTable (siblings : List Node) (table : Node) : Prop where
  /-- It is a table. -/
  kind_eq : table.kind = .table
  /-- The nodes before it are no tables and do not end the section. -/
  exists_eq_append : ∃ before after, siblings = before ++ table :: after
    ∧ ∀ node ∈ before, node.kind ≠ .table ∧ ¬ EndedBy node

/-- There is no table among the siblings after a heading before the section ends. -/
def NoTable (siblings : List Node) : Prop :=
  ∀ before table after, siblings = before ++ table :: after → table.kind = .table →
    ∃ node ∈ before, EndedBy node

variable {part : Section} {node table : Node}

theorem continues_iff :
  (!node.headingLevel?.any (· ≤ 2)) = true ↔ ¬ EndedBy node
  := by
  rw [Bool.not_eq_true', ← Bool.not_eq_true, Option.any_eq_true, EndedBy]
  simp only [decide_eq_true_iff, and_comm]

theorem not_endedBy_of_table (h : node.kind = .table) :
  ¬ EndedBy node
  := by
  rintro ⟨level, -, hlevel⟩
  rw [Node.headingLevel?, h] at hlevel
  cases hlevel

/-- The siblings after a heading up to a table are in the body, if none of them ends the section. -/
theorem body_eq_append {before after : List Node} (h : part.after = before ++ table :: after)
    (hbefore : ∀ node ∈ before, ¬ EndedBy node) (htable : table.kind = .table) :
  ∃ rest, part.body = before ++ table :: rest
  := by
  use after.takeWhile fun node => !node.headingLevel?.any (· ≤ 2)
  rw [body, h, List.takeWhile_append_of_pos, List.takeWhile_cons_of_pos]
  · apply continues_iff.mpr (not_endedBy_of_table htable)
  · intro node hnode
    apply continues_iff.mpr (hbefore node hnode)

theorem not_endedBy_of_mem_body (h : node ∈ part.body) :
  ¬ EndedBy node
  := by
  have hcontinues := List.mem_takeWhile_imp h
  apply continues_iff.mp hcontinues

theorem table?_eq_some_iff_firstTable :
  part.table? = some table ↔ FirstTable part.after table
  := by
  rw [table?, List.find?_eq_some_iff_append, decide_eq_true_iff]
  constructor
  · rintro ⟨hkind, before, after, hbody, hbefore⟩
    obtain ⟨rest, hrest⟩ : part.body <+: part.after := List.takeWhile_prefix _
    use hkind, before, after ++ rest
    constructor
    · rw [← hrest, hbody, List.append_assoc, List.cons_append]
    · intro node hnode
      constructor
      · simpa using hbefore node hnode
      · apply not_endedBy_of_mem_body
        rw [hbody]
        apply List.mem_append_left _ hnode
  · rintro ⟨hkind, before, after, hafter, hbefore⟩
    obtain ⟨rest, hbody⟩ := body_eq_append hafter (fun node hnode => (hbefore node hnode).2) hkind
    use hkind, before, rest, hbody
    intro node hnode
    simpa using (hbefore node hnode).1

theorem table?_eq_none_iff_noTable :
  part.table? = none ↔ NoTable part.after
  := by
  constructor
  · intro h before table after hafter hkind
    -- Otherwise the table would be in the body.
    by_contra hbefore
    obtain ⟨rest, hbody⟩ := body_eq_append hafter
      (fun node hnode hends => hbefore ⟨node, hnode, hends⟩) hkind
    have hne := List.find?_eq_none.mp h table (by simp [hbody])
    apply hne (decide_eq_true hkind)
  · intro h
    by_contra hsome
    obtain ⟨table, htable⟩ := Option.ne_none_iff_exists'.mp hsome
    obtain ⟨hkind, before, after, hafter, hbefore⟩ := table?_eq_some_iff_firstTable.mp htable
    obtain ⟨node, hnode, hends⟩ := h before table after hafter hkind
    apply (hbefore node hnode).2 hends

variable {siblings : List Node}

/-- There is one first table at most. -/
theorem FirstTable.eq {other : Node} (h : FirstTable siblings table)
    (h' : FirstTable siblings other) :
  table = other
  := by
  have htable := (@table?_eq_some_iff_firstTable ⟨0, "", siblings⟩ table).mpr h
  rw [table?_eq_some_iff_firstTable.mpr h'] at htable
  apply (Option.some.inj htable).symm

theorem NoTable.not_firstTable (h : NoTable siblings) :
  ¬ FirstTable siblings table
  := by
  rintro ⟨hkind, before, after, hafter, hbefore⟩
  obtain ⟨node, hnode, hends⟩ := h before table after hafter hkind
  apply (hbefore node hnode).2 hends

end Section

/-! ### Headers -/

namespace Table

variable {table : Node} {header : List String}

/-- Texts are the header of a table if they are those of the cells of its first header row. -/
def HasHeader (table : Node) (header : List String) : Prop :=
  ∃ row rest, rows .tableHead table = row :: rest
    ∧ header = (cells row).map fun cell => strip cell.plainText

/-- A table has no header row: no part of its head has a row. -/
def NoHeader (table : Node) : Prop :=
  ∀ part ∈ table.children, part.kind = .tableHead → ∀ row ∈ part.children, row.kind ≠ .tableRow

theorem header?_eq_some_iff :
  header? table = some header ↔ HasHeader table header
  := by
  rw [header?, HasHeader]
  cases rows .tableHead table with
  | nil => simp
  | cons row rest => simp [eq_comm]

theorem header?_eq_none_iff :
  header? table = none ↔ NoHeader table
  := by
  simp [header?, rows, NoHeader]

end Table

/-! ### Columns -/

/-- Those of some columns that have a property are picked, each as often as it is there and in the
same order. -/
structure Picked (P : String → Prop) (columns picked : List String) : Prop where
  /-- The order is kept. -/
  sublist : picked.Sublist columns
  /-- Only columns with the property are picked. -/
  of_mem : ∀ column ∈ picked, P column
  /-- No column with the property is lost. -/
  count_eq : ∀ column, P column → picked.count column = columns.count column

namespace Picked

variable {P : String → Prop} {columns picked : List String}

theorem filter {p : String → Bool} (h : ∀ column, p column = true ↔ P column) :
  Picked P columns (columns.filter p)
  := by
  constructor
  · apply List.filter_sublist
  · intro column hcolumn
    apply (h column).mp (List.mem_filter.mp hcolumn).2
  · intro column hcolumn
    apply List.count_filter ((h column).mpr hcolumn)

theorem eq_nil_iff (h : Picked P columns picked) :
  picked = [] ↔ ∀ column ∈ columns, ¬ P column
  := by
  constructor
  · intro hnil column hcolumn hP
    have hcount := h.count_eq column hP
    rw [hnil, List.count_nil] at hcount
    apply List.count_eq_zero.mp hcount.symm hcolumn
  · intro hnone
    apply List.eq_nil_iff_forall_not_mem.mpr
    intro column hcolumn
    apply hnone column (h.sublist.mem hcolumn) (h.of_mem column hcolumn)

end Picked

namespace Contract

variable {contract : Contract} {siblings : List Node} {problems : List Problem}

/-- A column is foreign to a contract if it is neither required nor optional. -/
def Foreign (contract : Contract) (column : String) : Prop :=
  column ∉ contract.required ∧ column ∉ contract.optional

/-- A contract is fulfilled under a heading, given by the siblings after it: there is a table, it
has a header row, every column of it is required or optional, and no required column is absent. -/
def Fulfilled (contract : Contract) (siblings : List Node) : Prop :=
  ∃ table header, Section.FirstTable siblings table ∧ Table.HasHeader table header
    ∧ (∀ column ∈ header, column ∈ contract.required ∨ column ∈ contract.optional)
    ∧ ∀ column ∈ contract.required, column ∈ header

/-- What is found when a contract is checked under a heading: that there is no table or no header
row, or else each column that is foreign to the contract, from left to right, followed by each
required column that is absent, in the order of the contract. -/
inductive Findings (contract : Contract) (siblings : List Node) : List Problem → Prop where
  /-- There is no table. -/
  | noTable (absent : Section.NoTable siblings) :
      Findings contract siblings [.missingTable contract.name]
  /-- The table has no header row. -/
  | noHeader {table : Node} (first : Section.FirstTable siblings table)
      (absent : Table.NoHeader table) :
      Findings contract siblings [.missingHeaderRow contract.name]
  /-- The header is compared. -/
  | compared {table : Node} {header unexpected missing : List String}
      (first : Section.FirstTable siblings table) (header_of : Table.HasHeader table header)
      (unexpected_of : Picked contract.Foreign header unexpected)
      (missing_of : Picked (· ∉ header) contract.required missing) :
      Findings contract siblings
        (unexpected.map (fun column =>
            .unexpectedColumn column contract.name (contract.suggestion? column))
          ++ missing.map (fun column => .missingColumn column contract.name))

theorem foreign_iff {column : String} :
  (!contract.columns.contains column) = true ↔ contract.Foreign column
  := by
  simp [columns, Foreign]

theorem findings_tableProblems (contract : Contract) (part : Section) :
  contract.Findings part.after (part.tableProblems contract)
  := by
  rw [Section.tableProblems]
  split
  · next htable => apply Findings.noTable (Section.table?_eq_none_iff_noTable.mp htable)
  · next table htable =>
    have hfirst := Section.table?_eq_some_iff_firstTable.mp htable
    split
    · next hheader => apply Findings.noHeader hfirst (Table.header?_eq_none_iff.mp hheader)
    · next header hheader =>
      apply Findings.compared hfirst (Table.header?_eq_some_iff.mp hheader)
      · apply Picked.filter fun column => foreign_iff
      · apply Picked.filter fun column => by simp

/-- Nothing is found exactly if the contract is fulfilled. -/
theorem Findings.eq_nil_iff (h : contract.Findings siblings problems) :
  problems = [] ↔ contract.Fulfilled siblings
  := by
  induction h with
  | noTable habsent =>
      apply iff_of_false (List.cons_ne_nil _ _)
      rintro ⟨table, header, hfirst, -⟩
      apply habsent.not_firstTable hfirst
  | noHeader hfirst habsent =>
      apply iff_of_false (List.cons_ne_nil _ _)
      rintro ⟨table, header, hfirst', hheader, -⟩
      obtain rfl := hfirst.eq hfirst'
      have hnone := Table.header?_eq_none_iff.mpr habsent
      rw [Table.header?_eq_some_iff.mpr hheader] at hnone
      cases hnone
  | @compared table header unexpected missing hfirst hheader hunexpected hmissing =>
      rw [List.append_eq_nil_iff, List.map_eq_nil_iff, List.map_eq_nil_iff, hunexpected.eq_nil_iff,
        hmissing.eq_nil_iff]
      simp only [Foreign, not_and_or, not_not]
      constructor
      · rintro ⟨hknown, hcomplete⟩
        use table, header
      · rintro ⟨table', header', hfirst', hheader', hknown, hcomplete⟩
        obtain rfl := hfirst.eq hfirst'
        rw [← Table.header?_eq_some_iff] at hheader hheader'
        obtain rfl := Option.some.inj (hheader.symm.trans hheader')
        use hknown

/-- Whatever is found is a defect of a table. -/
theorem Findings.kind_eq (h : contract.Findings siblings problems) {problem : Problem}
    (hproblem : problem ∈ problems) :
  problem.kind = .malformedTable
  := by
  induction h with
  | noTable => rw [List.mem_singleton.mp hproblem, Problem.kind]
  | noHeader => rw [List.mem_singleton.mp hproblem, Problem.kind]
  | compared =>
      rcases List.mem_append.mp hproblem with hproblem | hproblem
      · obtain ⟨column, -, rfl⟩ := List.mem_map.mp hproblem
        rfl
      · obtain ⟨column, -, rfl⟩ := List.mem_map.mp hproblem
        rfl

end Contract

/-! ### All tables -/

namespace Readme

/-- The headings that a name denotes, with their addresses. -/
def headingsUnder (readme : Readme) (name : String) : List (Address × Place) :=
  (Section.headings readme.root).filter fun found =>
    SectionName.denotes (Section.titleOf found.2) name

variable {readme : Readme} {name : String}

theorem mem_headingsUnder_iff {address : Address} {heading : Place} :
  (address, heading) ∈ readme.headingsUnder name
    ↔ Section.HeadingAt readme.root address heading
      ∧ SectionName.denotes (Section.titleOf heading) name = true
  := by
  rw [headingsUnder, List.mem_filter, Section.mem_headings_iff]

/-- What is made of the sections that a name denotes can be made of the headings, if it does not
depend on how the sections are numbered. -/
theorem flatMap_denoted {α : Type} {f : Section → List α}
    (hf : ∀ heading number,
      f (Section.ofHeading heading number) = f (Section.ofHeading heading 0)) :
  (readme.denoted name).flatMap f
    = (readme.headingsUnder name).flatMap fun found => f (Section.ofHeading found.2 0)
  := by
  rw [denoted_eq_filter, sections_eq_map_headings, List.filter_map, List.flatMap_map]
  simp only [hf]
  rw [headingsUnder]
  nth_rewrite 2 [← List.zipIdx_map_fst 0 (Section.headings readme.root)]
  rw [List.filter_map, List.flatMap_map]
  rfl

/-- What is found when a contract is checked under a heading. -/
def findings (contract : Contract) (heading : Place) : List Problem :=
  (Section.ofHeading heading 0).tableProblems contract

theorem tableProblems_eq (readme : Readme) :
  readme.tableProblems
    = Contract.all.flatMap fun contract =>
      (readme.headingsUnder contract.name).flatMap fun found => findings contract found.2
  := by
  rw [tableProblems]
  apply List.flatMap_congr
  intro contract _
  apply flatMap_denoted
  intro heading number
  rfl

/-- The tables of a README are accepted exactly if every contract is fulfilled under every heading
of level 2, in no other heading, that its name denotes. Otherwise the problems are the findings,
contract by contract, and under each of these headings in the order of the document. -/
theorem tables_checked_against_contracts (readme : Readme) :
  (readme.tableProblems = []
      ↔ ∀ contract ∈ Contract.all, ∀ address heading,
        Section.HeadingAt readme.root address heading →
        SectionName.denotes (Section.titleOf heading) contract.name = true →
          contract.Fulfilled heading.after)
    ∧ readme.tableProblems
      = Contract.all.flatMap (fun contract =>
        (readme.headingsUnder contract.name).flatMap fun found => findings contract found.2)
    ∧ (∀ name address heading,
      (address, heading) ∈ readme.headingsUnder name
        ↔ Section.HeadingAt readme.root address heading
          ∧ SectionName.denotes (Section.titleOf heading) name = true)
    ∧ (∀ name,
      (readme.headingsUnder name).Pairwise fun first second => first.1.Precedes second.1)
    ∧ (∀ (contract : Contract) (heading : Place),
      contract.Findings heading.after (findings contract heading)
        ∧ (findings contract heading = [] ↔ contract.Fulfilled heading.after))
    ∧ ∀ problem ∈ readme.tableProblems, problem.kind = .malformedTable
  := by
  have hfindings : ∀ (contract : Contract) (heading : Place),
      contract.Findings heading.after (findings contract heading) := by
    intro contract heading
    apply contract.findings_tableProblems (Section.ofHeading heading 0)
  refine ⟨?_, readme.tableProblems_eq, fun _ _ _ => mem_headingsUnder_iff, ?_, ?_, ?_⟩
  · simp only [tableProblems_eq, List.flatMap_eq_nil_iff, Prod.forall, mem_headingsUnder_iff,
      (hfindings _ _).eq_nil_iff, and_imp]
  · intro name
    apply (Section.headings_sorted readme.root).filter _
  · intro contract heading
    use hfindings contract heading
    apply (hfindings contract heading).eq_nil_iff
  · intro problem hproblem
    rw [tableProblems_eq] at hproblem
    obtain ⟨contract, -, hproblem⟩ := List.mem_flatMap.mp hproblem
    obtain ⟨found, -, hproblem⟩ := List.mem_flatMap.mp hproblem
    apply (hfindings contract found.2).kind_eq hproblem

end Readme

end ReadmeAudit
