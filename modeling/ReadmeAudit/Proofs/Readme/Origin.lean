import ReadmeAudit.Proofs.Readme.Range

/-!
# Where items come from

The items of some sections are read from nodes of the tree: from the headings of level 3 in the
range of a section, or from the body rows of its first table. This module lists these nodes with
their addresses. The sections come in the order of the first name that denotes them, and then in the
order of the document, each once; and since the ranges of different sections have no node in common,
each node is read once, whatever the names.
-/

namespace ReadmeAudit

open Text Markdown

/-! ### Nodes with their addresses -/

namespace Markdown

/-- Nodes with their addresses, which are given by their positions. -/
def placed (addressOf : Nat → Address) (nodes : List Node) : List (Address × Node) :=
  nodes.zipIdx.map fun (node, index) => (addressOf index, node)

variable {addressOf : Nat → Address} {nodes : List Node} {address : Address} {node : Node}

@[simp]
theorem mem_placed_iff :
  (address, node) ∈ placed addressOf nodes
    ↔ ∃ index, address = addressOf index ∧ nodes[index]? = some node
  := by
  simp only [placed, List.mem_map, Prod.exists, List.mk_mem_zipIdx_iff_getElem?, Prod.mk.injEq]
  constructor
  · rintro ⟨node, index, hnode, rfl, rfl⟩
    use index, rfl
  · rintro ⟨index, rfl, hnode⟩
    use node, index, hnode

@[simp]
theorem map_snd_placed (addressOf : Nat → Address) (nodes : List Node) :
  (placed addressOf nodes).map Prod.snd = nodes
  := by
  rw [placed, List.map_map]
  apply List.zipIdx_map_fst

/-- Nodes whose addresses increase with their positions are in the order of the document. -/
theorem placed_sorted
    (h : ∀ {first second}, first < second → (addressOf first).Precedes (addressOf second))
    (nodes : List Node) :
  ((placed addressOf nodes).map Prod.fst).Pairwise Address.Precedes
  := by
  have hmap : (placed addressOf nodes).map Prod.fst
      = (nodes.zipIdx.map Prod.snd).map addressOf := by
    rw [placed, List.map_map, List.map_map]
    rfl
  rw [hmap, List.zipIdx_map_snd]
  apply (List.pairwise_lt_range' 1).map
  intro first second hlt
  apply h hlt

namespace Node

variable {kind : Kind} {child : Node} {lower : Address}

/-- The children of a kind of the node at an address, with their addresses. -/
def childrenAt (kind : Kind) (address : Address) (node : Node) : List (Address × Node) :=
  (placed (fun index => address ++ [index]) node.children).filter (·.2.kind = kind)

theorem mem_childrenAt_iff :
  (lower, child) ∈ node.childrenAt kind address
    ↔ (∃ index, lower = address ++ [index] ∧ node.children[index]? = some child)
      ∧ child.kind = kind
  := by
  rw [childrenAt, List.mem_filter, mem_placed_iff, decide_eq_true_iff]

theorem map_snd_childrenAt (kind : Kind) (address : Address) (node : Node) :
  (node.childrenAt kind address).map Prod.snd = node.children.filter (·.kind = kind)
  := by
  rw [← map_snd_placed (fun index => address ++ [index]) node.children, List.filter_map]
  rfl

theorem childrenAt_sorted (kind : Kind) (address : Address) (node : Node) :
  ((node.childrenAt kind address).map Prod.fst).Pairwise Address.Precedes
  := by
  apply List.Pairwise.sublist (List.filter_sublist.map Prod.fst)
  apply placed_sorted
  intro first second hlt
  apply Address.Precedes.append_left address (List.Lex.rel hlt)

/-- The addresses of children are one longer. -/
theorem exists_eq_concat_of_mem_childrenAt
    (h : lower ∈ (node.childrenAt kind address).map Prod.fst) :
  ∃ index, lower = address ++ [index]
  := by
  obtain ⟨⟨lower, child⟩, hchild, rfl⟩ := List.mem_map.mp h
  obtain ⟨⟨index, hindex, -⟩, -⟩ := mem_childrenAt_iff.mp hchild
  use index

/-- The children are found at their addresses. -/
theorem at?_of_mem_childrenAt {start : Place} {after : List Node}
    (hnode : start.at? address = some ⟨node, after⟩)
    (h : (lower, child) ∈ node.childrenAt kind address) :
  ∃ after, start.at? lower = some ⟨child, after⟩
  := by
  obtain ⟨⟨index, rfl, hchild⟩, -⟩ := mem_childrenAt_iff.mp h
  obtain ⟨hindex, rfl⟩ := List.getElem?_eq_some_iff.mp hchild
  use node.children.drop (index + 1)
  simp [hnode, Place.child?_eq_some_iff]

end Node

end Markdown

/-! ### Rows -/

namespace Table

/-- The body rows of the table at an address, with their addresses. -/
def rowsAt (address : Address) (table : Node) : List (Address × Node) :=
  (table.childrenAt .tableBody address).flatMap fun (address, part) =>
    part.childrenAt .tableRow address

theorem map_snd_rowsAt (address : Address) (table : Node) :
  (rowsAt address table).map Prod.snd = rows .tableBody table
  := by
  rw [rowsAt, rows, ← Node.map_snd_childrenAt .tableBody address table, List.map_flatMap,
    List.flatMap_map]
  simp only [Node.map_snd_childrenAt]

theorem rowsAt_sorted (address : Address) (table : Node) :
  ((rowsAt address table).map Prod.fst).Pairwise Address.Precedes
  := by
  rw [rowsAt, List.map_flatMap, List.pairwise_flatMap]
  constructor
  · intro part _
    apply Node.childrenAt_sorted
  · have hparts := Node.childrenAt_sorted .tableBody address table
    rw [List.pairwise_map] at hparts
    apply hparts.imp_of_mem
    intro part part' hpart hpart' hprecedes lower hlower lower' hlower'
    obtain ⟨index, heq⟩ :=
      Node.exists_eq_concat_of_mem_childrenAt (List.mem_map_of_mem hpart)
    obtain ⟨index', heq'⟩ :=
      Node.exists_eq_concat_of_mem_childrenAt (List.mem_map_of_mem hpart')
    obtain ⟨rowIndex, rfl⟩ := Node.exists_eq_concat_of_mem_childrenAt hlower
    obtain ⟨rowIndex', rfl⟩ := Node.exists_eq_concat_of_mem_childrenAt hlower'
    apply hprecedes.append
    rw [heq, heq', List.length_append, List.length_append]
    rfl

/-- The addresses of rows are two longer than that of the table. -/
theorem exists_eq_append_of_mem_rowsAt {address lower : Address} {table row : Node}
    (h : (lower, row) ∈ rowsAt address table) :
  ∃ index rowIndex, lower = address ++ [index, rowIndex]
  := by
  obtain ⟨⟨upper, part⟩, hpart, hrow⟩ := List.mem_flatMap.mp h
  obtain ⟨index, rfl : upper = _⟩ :=
    Node.exists_eq_concat_of_mem_childrenAt (List.mem_map_of_mem hpart)
  obtain ⟨rowIndex, rfl : lower = _⟩ :=
    Node.exists_eq_concat_of_mem_childrenAt (List.mem_map_of_mem hrow)
  use index, rowIndex
  apply List.append_assoc

/-- The rows are found at their addresses. -/
theorem at?_of_mem_rowsAt {start : Place} {after : List Node} {address lower : Address}
    {table row : Node} (htable : start.at? address = some ⟨table, after⟩)
    (h : (lower, row) ∈ rowsAt address table) :
  ∃ after, start.at? lower = some ⟨row, after⟩
  := by
  obtain ⟨⟨upper, part⟩, hpart, hrow⟩ := List.mem_flatMap.mp h
  obtain ⟨after, hat⟩ := Node.at?_of_mem_childrenAt htable hpart
  apply Node.at?_of_mem_childrenAt hat hrow

end Table

/-! ### Ranges -/

namespace Section

/-- The title that a heading gives to its section. -/
def titleOf (heading : Place) : String :=
  strip heading.node.plainText

/-- The section of a heading, with its number. -/
def ofHeading (heading : Place) (number : Nat) : Section :=
  ⟨number, titleOf heading, heading.after⟩

/-- The range of the heading at an address: the siblings after it, up to the next heading of level 2
or 1, with their addresses. -/
def range (address : Address) (heading : Place) : List (Address × Node) :=
  placed (fun offset => address.later (offset + 1))
    (heading.after.takeWhile fun node => !node.headingLevel?.any (· ≤ 2))

variable {root : Node} {address address' upper : Address} {heading heading' : Place}
  {node node' : Node}

/-- The headings of sections are listed in the order of the document. -/
theorem headings_sorted (root : Node) :
  (headings root).Pairwise fun first second => first.1.Precedes second.1
  := List.pairwise_map.mp (gatheredFrom_sorted [] root)

theorem HeadingAt.exists_standsAt (h : HeadingAt root address heading) :
  ∃ part ∈ ofRoot root, part.StandsAt root address ∧ part.after = heading.after
  := by
  obtain ⟨number, hnumber⟩ := List.getElem?_of_mem (mem_headings_iff.mpr h)
  use ⟨number, titleOf heading, heading.after⟩
  refine ⟨?_, ?_, rfl⟩
  · rw [ofRoot, walk_collect_eq, List.mem_map]
    use (heading, number)
    rw [List.mk_mem_zipIdx_iff_getElem?, List.getElem?_map, hnumber]
    use rfl
    rfl
  · rw [StandsAt, List.getElem?_map, hnumber]
    rfl

/-- The nodes of the range of a heading are those of the body of its section. -/
theorem HeadingAt.exists_bodyStandsAt (h : HeadingAt root address heading)
    (hnode : (upper, node) ∈ range address heading) :
  ∃ part ∈ ofRoot root, part.StandsAt root address
    ∧ ∃ offset, part.body[offset]? = some node ∧ part.BodyStandsAt root offset upper
  := by
  obtain ⟨part, hpart, hstands, hafter⟩ := h.exists_standsAt
  obtain ⟨offset, rfl, hoffset⟩ := mem_placed_iff.mp hnode
  rw [← hafter] at hoffset
  use part, hpart, hstands, offset, hoffset
  rcases List.eq_nil_or_concat' address with rfl | ⟨parent, index, rfl⟩
  · -- No siblings follow the root.
    obtain rfl := Option.some.inj h.outermost.at?_eq
    rw [hafter] at hoffset
    cases hoffset
  · use parent, index, hstands
    rw [Address.later_concat, Nat.add_assoc, Nat.add_comm 1]

/-- The nodes of a range are found at their addresses. -/
theorem HeadingAt.at?_of_mem_range (h : HeadingAt root address heading)
    (hnode : (upper, node) ∈ range address heading) :
  ∃ after, Place.at? ⟨root, []⟩ upper = some ⟨node, after⟩
  := by
  obtain ⟨part, hpart, -, offset, hoffset, hbody⟩ := h.exists_bodyStandsAt hnode
  apply hbody.at?_eq hpart hoffset

/-- The ranges of different headings have no node in common. -/
theorem HeadingAt.eq_of_mem_range (h : HeadingAt root address heading)
    (h' : HeadingAt root address' heading') (hnode : (upper, node) ∈ range address heading)
    (hnode' : (upper, node') ∈ range address' heading') :
  address = address'
  := by
  obtain ⟨part, hpart, hstands, offset, hoffset, hbody⟩ := h.exists_bodyStandsAt hnode
  obtain ⟨part', hpart', hstands', offset', hoffset', hbody'⟩ := h'.exists_bodyStandsAt hnode'
  obtain ⟨hlt, -⟩ := List.getElem?_eq_some_iff.mp hoffset
  obtain ⟨hlt', -⟩ := List.getElem?_eq_some_iff.mp hoffset'
  obtain rfl := hbody.eq hpart hpart' hbody' hlt hlt'
  apply Option.some.inj (hstands.symm.trans hstands')

theorem range_sorted (address : Address) (heading : Place) :
  ((range address heading).map Prod.fst).Pairwise Address.Precedes
  := by
  apply placed_sorted
  intro first second hlt
  apply Address.Precedes.append_left address.dropLast
  apply List.Lex.rel (by omega)

/-- Nodes that are read for headings at different addresses are different, if none is read for two
headings. -/
theorem nodup_flatMap {nodes : Address → Place → List (Address × Node)}
    {found : List (Address × Place)}
    (hfound : ∀ heading ∈ found, HeadingAt root heading.1 heading.2)
    (hne : found.Pairwise fun first second => first.1 ≠ second.1)
    (hsorted : ∀ address heading,
      ((nodes address heading).map Prod.fst).Pairwise Address.Precedes)
    (heq : ∀ {address address' upper heading heading' node node'},
      HeadingAt root address heading → HeadingAt root address' heading' →
        (upper, node) ∈ nodes address heading → (upper, node') ∈ nodes address' heading' →
          address = address') :
  ((found.flatMap fun heading => nodes heading.1 heading.2).map Prod.fst).Nodup
  := by
  rw [List.map_flatMap, List.nodup_flatMap]
  constructor
  · intro heading _
    apply (hsorted heading.1 heading.2).imp Address.Precedes.ne
  · apply hne.imp_of_mem
    intro first second hfirst hsecond hne address h h'
    obtain ⟨⟨upper, node⟩, hnode, rfl⟩ := List.mem_map.mp h
    obtain ⟨⟨upper', node'⟩, hnode', heq' : upper' = upper⟩ := List.mem_map.mp h'
    rw [heq'] at hnode'
    apply hne (heq (hfound first hfirst) (hfound second hsecond) hnode hnode')

/-- The ranges of all headings have no node in common. -/
theorem ranges_nodup (root : Node) :
  (((headings root).flatMap fun found => range found.1 found.2).map Prod.fst).Nodup
  := by
  apply nodup_flatMap
  · intro found hfound
    apply mem_headings_iff.mp hfound
  · apply (headings_sorted root).imp Address.Precedes.ne
  · apply range_sorted
  · apply HeadingAt.eq_of_mem_range

/-! ### Nodes that items are read from -/

/-- The name of the item that a node gives in a layout. -/
def itemName? (layout : Layout) (node : Node) : Option String :=
  match layout with
  | .document =>
    let name := headingName node.plainText
    if name.isEmpty then none else some name
  | .table => Table.itemName? node

/-- The nodes that the items of the section under a heading are read from: in the layout of
headings, those of level 3 in its range, and in that of tables the body rows of the first table
there. -/
def itemNodes (layout : Layout) (address : Address) (heading : Place) : List (Address × Node) :=
  match layout with
  | .document => (range address heading).filter (·.2.isHeadingOf 3)
  | .table =>
    match (range address heading).find? (·.2.kind = .table) with
    | none => []
    | some (address, table) => Table.rowsAt address table

/-- The items of a section are the names that these nodes give. -/
theorem items_eq (layout : Layout) (address : Address) {part : Section}
    (h : part.after = heading.after) :
  part.items layout
    = (itemNodes layout address heading).filterMap fun found => itemName? layout found.2
  := by
  have hbody : part.body = (range address heading).map Prod.snd := by
    rw [range, map_snd_placed, body, h]
  cases layout with
  | document =>
      simp only [items, headingItems, hbody, List.filter_map, List.filterMap_map, itemNodes,
        itemName?, Function.comp_def]
  | table =>
      simp only [items, table?, hbody, List.find?_map, itemNodes, itemName?, Function.comp_def]
      cases (range address heading).find? (·.2.kind = .table) with
      | none => rfl
      | some found =>
          simp only [Option.map_some, Option.getD_some, Table.itemNames]
          rw [← Table.map_snd_rowsAt found.1, List.filterMap_map]
          rfl

theorem itemNodes_sorted (layout : Layout) (address : Address) (heading : Place) :
  ((itemNodes layout address heading).map Prod.fst).Pairwise Address.Precedes
  := by
  cases layout with
  | document => apply (range_sorted address heading).sublist (List.filter_sublist.map Prod.fst)
  | table =>
      rw [itemNodes]
      split
      · apply List.Pairwise.nil
      · apply Table.rowsAt_sorted

/-- In the layout of tables, items are read from rows of a table in the range. -/
theorem exists_of_mem_itemNodes_table (h : (upper, node) ∈ itemNodes .table address heading) :
  ∃ found ∈ range address heading, (upper, node) ∈ Table.rowsAt found.1 found.2
  := by
  rw [itemNodes] at h
  split at h
  · cases h
  · next lower table htable =>
    use (lower, table), List.mem_of_find?_eq_some htable

/-- The nodes that items are read from are found at their addresses. -/
theorem HeadingAt.at?_of_mem_itemNodes {layout : Layout} (h : HeadingAt root address heading)
    (hnode : (upper, node) ∈ itemNodes layout address heading) :
  ∃ after, Place.at? ⟨root, []⟩ upper = some ⟨node, after⟩
  := by
  cases layout with
  | document => apply h.at?_of_mem_range (List.mem_of_mem_filter hnode)
  | table =>
      obtain ⟨⟨lower, table⟩, htable, hrow⟩ := exists_of_mem_itemNodes_table hnode
      obtain ⟨after, hat⟩ := h.at?_of_mem_range htable
      apply Table.at?_of_mem_rowsAt hat hrow

/-- No node is read for two headings. -/
theorem HeadingAt.eq_of_mem_itemNodes {layout : Layout} (h : HeadingAt root address heading)
    (h' : HeadingAt root address' heading')
    (hnode : (upper, node) ∈ itemNodes layout address heading)
    (hnode' : (upper, node') ∈ itemNodes layout address' heading') :
  address = address'
  := by
  cases layout with
  | document =>
      apply h.eq_of_mem_range h' (List.mem_of_mem_filter hnode) (List.mem_of_mem_filter hnode')
  | table =>
      obtain ⟨⟨lower, table⟩, htable, hrow⟩ := exists_of_mem_itemNodes_table hnode
      obtain ⟨⟨lower', table'⟩, htable', hrow'⟩ := exists_of_mem_itemNodes_table hnode'
      obtain ⟨index, rowIndex, rfl⟩ := Table.exists_eq_append_of_mem_rowsAt hrow
      obtain ⟨index', rowIndex', heq⟩ := Table.exists_eq_append_of_mem_rowsAt hrow'
      obtain ⟨rfl, -⟩ := List.append_inj' heq rfl
      apply h.eq_of_mem_range h' htable htable'

end Section

/-! ### Sections in the order in which they are read -/

namespace Readme

variable {readme : Readme} {names : List String}

/-- A heading at an address is that of a section that one of some names denotes. -/
def HeadingOf (readme : Readme) (names : List String) (address : Address) (heading : Place) :
    Prop :=
  Section.HeadingAt readme.root address heading
    ∧ ∃ name ∈ names, SectionName.denotes (Section.titleOf heading) name = true

/-- A heading is read before another: an earlier one of some names is the first that denotes it, or
the same one and the heading comes before the other in the document. -/
def ReadBefore (names : List String) (first second : Address × Place) : Prop :=
  let rank (heading : Place) := names.findIdx (SectionName.denotes (Section.titleOf heading))
  rank first.2 < rank second.2 ∨ rank first.2 = rank second.2 ∧ first.1.Precedes second.1

/-- The headings that names denote, in the order in which they are read. -/
def headingsOf (readme : Readme) (names : List String) : List (Address × Place) :=
  firstAccepted (fun name found => SectionName.denotes (Section.titleOf found.2) name)
    (Section.headings readme.root) names

@[simp]
theorem mem_headingsOf_iff {address : Address} {heading : Place} :
  (address, heading) ∈ readme.headingsOf names ↔ readme.HeadingOf names address heading
  := by
  rw [headingsOf, mem_firstAccepted_iff, Section.mem_headings_iff, HeadingOf]

theorem headingsOf_pairwise (readme : Readme) (names : List String) :
  (readme.headingsOf names).Pairwise (ReadBefore names)
  := firstAccepted_pairwise (Section.headings_sorted readme.root)

/-- The heading that is read before another is at another address. -/
theorem ReadBefore.ne {first second : Address × Place}
    (hfirst : Section.HeadingAt readme.root first.1 first.2)
    (hsecond : Section.HeadingAt readme.root second.1 second.2)
    (h : ReadBefore names first second) :
  first.1 ≠ second.1
  := by
  intro heq
  have hat := hfirst.outermost.at?_eq
  rw [heq, hsecond.outermost.at?_eq] at hat
  rw [ReadBefore, heq, Option.some.inj hat] at h
  rcases h with h | ⟨-, h⟩
  · apply Nat.lt_irrefl _ h
  · apply h.ne rfl

theorem denoted_eq_filter (readme : Readme) (name : String) :
  readme.denoted name = readme.sections.filter fun part => SectionName.denotes part.title name
  := by
  rw [denoted]
  split
  · next hblank =>
    symm
    apply List.filter_eq_nil_iff.mpr
    simp [SectionName.denotes_of_blank hblank]
  · rfl

/-- The sections of a README are those of its headings, numbered. -/
theorem sections_eq_map_headings (readme : Readme) :
  readme.sections
    = (Section.headings readme.root).zipIdx.map fun found => Section.ofHeading found.1.2 found.2
  := by
  rw [readme.sections_eq, Section.ofRoot, Section.walk_collect_eq, List.zipIdx_map, List.map_map]
  rfl

/-- The sections found under some names are those of the headings that the names denote, in the
order in which these are read. -/
theorem exists_merge_eq (readme : Readme) (names : List String) :
  ∃ numbered : List ((Address × Place) × Nat),
    readme.headingsOf names = numbered.map Prod.fst
      ∧ Section.merge (names.map readme.denoted)
        = numbered.map fun found => Section.ofHeading found.1.2 found.2
  := by
  have hsections := readme.sections_eq_map_headings
  have hnumbers : (readme.sections.map Section.number).Nodup := by
    have hsnd : readme.sections.map Section.number
        = (Section.headings readme.root).zipIdx.map Prod.snd := by
      rw [hsections, List.map_map]
      rfl
    rw [hsnd, List.zipIdx_map_snd]
    exact List.nodup_range'
  have hdenoted : names.map readme.denoted = names.map fun name =>
      readme.sections.filter fun part => SectionName.denotes part.title name := by
    apply List.map_congr_left
    intro name _
    apply denoted_eq_filter
  use firstAccepted (fun name found => SectionName.denotes (Section.titleOf found.1.2) name)
    (Section.headings readme.root).zipIdx names
  constructor
  · conv_lhs => rw [headingsOf, ← List.zipIdx_map_fst 0 (Section.headings readme.root),
      firstAccepted_map]
  · rw [Section.merge, hdenoted, distinctBy_flatten_filter hnumbers, hsections, firstAccepted_map]
    rfl

/-- The nodes that the items of the sections of some names are read from. -/
def itemNodes (readme : Readme) (names : List String) : List (Address × Node) :=
  (readme.headingsOf names).flatMap fun found =>
    Section.itemNodes readme.layout found.1 found.2

theorem candidates_eq (h : readme.headingsOf names ≠ []) :
  readme.candidates names (Section.merge (names.map readme.denoted))
    = (readme.itemNodes names).filterMap fun found => Section.itemName? readme.layout found.2
  := by
  obtain ⟨numbered, hheadings, hmerge⟩ := readme.exists_merge_eq names
  have hfound : (Section.merge (names.map readme.denoted)).isEmpty = false := by
    rw [hmerge, List.isEmpty_map]
    rw [hheadings, ne_eq, List.map_eq_nil_iff] at h
    simpa using h
  rw [candidates, hfound, hmerge, itemNodes, hheadings, List.flatMap_map, List.flatMap_map,
    List.filterMap_flatMap]
  apply List.flatMap_congr
  intro found _
  apply Section.items_eq
  rfl

/-- No node is read twice. -/
theorem itemNodes_nodup (readme : Readme) (names : List String) :
  ((readme.itemNodes names).map Prod.fst).Nodup
  := by
  apply Section.nodup_flatMap
  · intro found hfound
    apply (mem_headingsOf_iff.mp hfound).1
  · apply (readme.headingsOf_pairwise names).imp_of_mem
    intro first second hfirst hsecond hbefore
    apply hbefore.ne (mem_headingsOf_iff.mp hfirst).1 (mem_headingsOf_iff.mp hsecond).1
  · apply Section.itemNodes_sorted
  · intro _ _ _ _ _ _ _ hat hat'
    apply hat.eq_of_mem_itemNodes hat'

/-- The items of the sections of some names, if there is such a section. They are the names that
nodes of the tree give, from section to section: the headings of level 3 in the range of its
heading, or the body rows of the first table there. The headings are those of level 2, in no other
heading, that one of the names denotes, in the order of the first name that does and then of the
document. Each node is found at its address and is read once, and the ranges of all headings have
no node in common. -/
theorem items_read_once (readme : Readme) (names : List String)
    (h : ∃ address heading, readme.HeadingOf names address heading) :
  readme.candidates names (Section.merge (names.map readme.denoted))
      = (readme.itemNodes names).filterMap (fun found => Section.itemName? readme.layout found.2)
    ∧ readme.itemNodes names
      = (readme.headingsOf names).flatMap (fun found =>
        Section.itemNodes readme.layout found.1 found.2)
    ∧ (∀ address heading,
      (address, heading) ∈ readme.headingsOf names ↔ readme.HeadingOf names address heading)
    ∧ (readme.headingsOf names).Pairwise (ReadBefore names)
    ∧ (∀ address node, (address, node) ∈ readme.itemNodes names →
      ∃ after, Place.at? ⟨readme.root, []⟩ address = some ⟨node, after⟩)
    ∧ ((readme.itemNodes names).map Prod.fst).Nodup
    ∧ (((Section.headings readme.root).flatMap fun found =>
      Section.range found.1 found.2).map Prod.fst).Nodup
  := by
  obtain ⟨address, heading, hheading⟩ := h
  use candidates_eq (List.ne_nil_of_mem (mem_headingsOf_iff.mpr hheading))
  use rfl
  use fun _ _ => mem_headingsOf_iff
  use readme.headingsOf_pairwise names
  refine ⟨?_, readme.itemNodes_nodup names, Section.ranges_nodup readme.root⟩
  intro address node hnode
  obtain ⟨found, hfound, hnode⟩ := List.mem_flatMap.mp hnode
  apply (mem_headingsOf_iff.mp hfound).1.at?_of_mem_itemNodes hnode

/-- A README in the layout of headings, in which the heading of a section is misspelled so that it
denotes another section as well, and that other section is in a block quote under it. -/
def quotedReadme : Readme :=
  let heading (level : Nat) (text : String) : Node := .mk (.heading level) [.leaf (.text text)]
  let root : Node := .mk .root [heading 2 "Ouputs", heading 3 "vpc_id",
    .mk .blockQuote [heading 2 "Inputs", heading 3 "region"], heading 3 "subnet_id"]
  ⟨"", root, [], Section.ofRoot root, none, .document, rfl⟩

theorem items_read_once_quoted :
  (∃ address heading, quotedReadme.HeadingOf ["Outputs", "Inputs"] address heading)
    ∧ quotedReadme.candidates ["Outputs", "Inputs"]
        (Section.merge (["Outputs", "Inputs"].map quotedReadme.denoted))
      = ["vpc_id", "subnet_id", "region"]
    ∧ (quotedReadme.itemNodes ["Outputs", "Inputs"]).filterMap
        (fun found => Section.itemName? quotedReadme.layout found.2)
      = ["vpc_id", "subnet_id", "region"]
  := by
  have hheading : ∃ address heading,
      quotedReadme.HeadingOf ["Outputs", "Inputs"] address heading := by
    use [0], ⟨.mk (.heading 2) [.leaf (.text "Ouputs")], quotedReadme.root.children.drop 1⟩
    refine ⟨⟨?_, rfl⟩, "Outputs", List.mem_cons_self, by decide +kernel⟩
    apply Place.outermost_cons_iff.mpr
    refine ⟨rfl, _, rfl, Place.outermost_nil_iff.mpr ⟨rfl, rfl⟩⟩
  have hitems : quotedReadme.candidates ["Outputs", "Inputs"]
        (Section.merge (["Outputs", "Inputs"].map quotedReadme.denoted))
      = ["vpc_id", "subnet_id", "region"] := by
    decide +kernel
  use hheading, hitems
  rw [← (items_read_once quotedReadme ["Outputs", "Inputs"] hheading).1, hitems]

end Readme

end ReadmeAudit
