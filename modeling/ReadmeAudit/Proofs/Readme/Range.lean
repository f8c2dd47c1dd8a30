import Mathlib.Data.List.Nodup
import ReadmeAudit.Proofs.Markdown.Outermost
import ReadmeAudit.Proofs.Readme.Documentation

/-!
# Where sections stand

The heading of a section stands at an address of the tree, and the nodes of its body are the
siblings after it. Different sections stand at different addresses, and no node is in the bodies of
two sections, because a body ends at the next heading of level 2. In particular a table belongs to
one section at most.
-/

namespace ReadmeAudit.Section

open Text Markdown

/-- The headings of sections, with their addresses. -/
def headings (root : Node) : List (Address × Place) :=
  gatheredFrom Kind.isHeading (·.headingLevel? == some 2) [] root

theorem walk_collect_eq (root : Node) :
  (root.walk collect []).2.reverse = (headings root).map Prod.snd
  := by
  rw [Node.walk, walkNode_eq collect_gathers, List.append_nil, List.reverse_reverse]
  rfl

variable {root : Node} {part other : Section} {address : Address}

/-- The heading of a section is at an address: it is of level 2, and in no other heading. -/
structure HeadingAt (root : Node) (address : Address) (heading : Place) : Prop where
  /-- It is in no other heading. -/
  outermost : Place.Outermost Kind.isHeading ⟨root, []⟩ address heading
  /-- It is of level 2. -/
  level : heading.node.isHeadingOf 2 = true

@[simp]
theorem mem_headings_iff {heading : Place} :
  (address, heading) ∈ headings root ↔ HeadingAt root address heading
  := by
  rw [headings, mem_gatheredFrom_iff]
  constructor
  · rintro ⟨houtermost, hlevel⟩
    use houtermost, hlevel
  · rintro ⟨houtermost, hlevel⟩
    use houtermost, hlevel

/-- The number of a section is the position of its heading. -/
theorem exists_getElem?_headings (h : part ∈ ofRoot root) :
  ∃ address heading, (headings root)[part.number]? = some (address, heading)
    ∧ heading.after = part.after
  := by
  rw [ofRoot, walk_collect_eq, List.mem_map] at h
  obtain ⟨⟨place, number⟩, hplace, rfl⟩ := h
  rw [List.mk_mem_zipIdx_iff_getElem?, List.getElem?_map, Option.map_eq_some_iff] at hplace
  obtain ⟨⟨address, heading⟩, hheading, rfl⟩ := hplace
  use address, heading, hheading

/-- The heading of a section stands at an address. -/
def StandsAt (root : Node) (part : Section) (address : Address) : Prop :=
  ((headings root).map Prod.fst)[part.number]? = some address

theorem exists_standsAt (h : part ∈ ofRoot root) :
  ∃ address, part.StandsAt root address
  := by
  obtain ⟨address, heading, hheading, -⟩ := exists_getElem?_headings h
  use address
  rw [StandsAt, List.getElem?_map, hheading, Option.map_some]

/-- Sections that stand at the same address are the same. -/
theorem StandsAt.eq (h : part ∈ ofRoot root) (h' : other ∈ ofRoot root)
    (hpart : part.StandsAt root address) (hother : other.StandsAt root address) :
  part = other
  := by
  apply eq_of_number_eq h h'
  obtain ⟨hlt, -⟩ := List.getElem?_eq_some_iff.mp hpart
  apply (List.getElem?_inj hlt (gatheredFrom_nodup [] root)).mp (hpart.trans hother.symm)

/-- At the address of a section there is a heading of level 2, with the siblings of the section
after it. -/
theorem StandsAt.at?_eq (h : part ∈ ofRoot root) (hpart : part.StandsAt root address) :
  ∃ heading, Place.at? ⟨root, []⟩ address = some heading
    ∧ heading.node.headingLevel? = some 2 ∧ heading.after = part.after
  := by
  obtain ⟨address', heading, hheading, hafter⟩ := exists_getElem?_headings h
  rw [StandsAt, List.getElem?_map, hheading, Option.map_some] at hpart
  obtain rfl := Option.some.inj hpart
  have hat := mem_headings_iff.mp (List.mem_of_getElem? hheading)
  use heading, hat.outermost.at?_eq, eq_of_beq hat.level

/-! ### Bodies -/

/-- The body of a section consists of siblings after its heading, none of which is a heading of
level 2. -/
theorem getElem?_body {offset : Nat} {node : Node} (h : part.body[offset]? = some node) :
  part.after[offset]? = some node ∧ node.headingLevel? ≠ some 2
  := by
  constructor
  · obtain ⟨rest, hrest⟩ : part.body <+: part.after := List.takeWhile_prefix _
    obtain ⟨hoffset, -⟩ := List.getElem?_eq_some_iff.mp h
    rw [← hrest, List.getElem?_append_left hoffset]
    apply h
  · intro hlevel
    have hbody := List.mem_takeWhile_imp (List.mem_of_getElem? h)
    rw [hlevel] at hbody
    cases hbody

/-- The node at a position of the body of a section stands at an address. -/
def BodyStandsAt (root : Node) (part : Section) (offset : Nat) (address : Address) : Prop :=
  ∃ parent index, part.StandsAt root (parent ++ [index]) ∧ address = parent ++ [index + 1 + offset]

variable {offset offset' : Nat}

theorem exists_bodyStandsAt (h : part ∈ ofRoot root) (hoffset : offset < part.body.length) :
  ∃ address, part.BodyStandsAt root offset address
  := by
  obtain ⟨address, hpart⟩ := exists_standsAt h
  rcases List.eq_nil_or_concat' address with rfl | ⟨parent, index, rfl⟩
  · -- No siblings follow the root.
    obtain ⟨heading, hheading, -, hafter⟩ := hpart.at?_eq h
    obtain rfl := Option.some.inj hheading
    rw [body, ← hafter] at hoffset
    cases hoffset
  · use parent ++ [index + 1 + offset], parent, index, hpart

/-- The nodes of a body are found at their addresses. -/
theorem BodyStandsAt.at?_eq {node : Node} (h : part ∈ ofRoot root)
    (hpart : part.BodyStandsAt root offset address) (hnode : part.body[offset]? = some node) :
  ∃ after, Place.at? ⟨root, []⟩ address = some ⟨node, after⟩
  := by
  obtain ⟨parent, index, hstands, rfl⟩ := hpart
  obtain ⟨heading, hheading, -, hafter⟩ := hstands.at?_eq h
  apply Place.at?_sibling hheading
  rw [hafter]
  apply (getElem?_body hnode).1

/-- The body of a section ends before the next section among the siblings. -/
theorem StandsAt.body_length_lt {parent : Address} {index index' : Nat}
    (h : part ∈ ofRoot root) (h' : other ∈ ofRoot root)
    (hpart : part.StandsAt root (parent ++ [index]))
    (hother : other.StandsAt root (parent ++ [index'])) (hlt : index < index') :
  index + part.body.length < index'
  := by
  by_contra hle
  obtain ⟨gap, rfl⟩ := Nat.exists_eq_add_of_le (Nat.succ_le_of_lt hlt)
  have hgap : gap < part.body.length := by omega
  have hnode : part.body[gap]? = some part.body[gap] := List.getElem?_eq_getElem hgap
  -- The heading of the other section would be in the body of this one.
  obtain ⟨heading, hheading, hlevel, -⟩ := hother.at?_eq h'
  obtain ⟨after, hat⟩ := BodyStandsAt.at?_eq h ⟨parent, index, hpart, rfl⟩ hnode
  rw [hheading] at hat
  obtain rfl := Option.some.inj hat
  apply (getElem?_body hnode).2 hlevel

/-- No node is in the bodies of two sections. -/
theorem BodyStandsAt.eq (h : part ∈ ofRoot root) (h' : other ∈ ofRoot root)
    (hpart : part.BodyStandsAt root offset address)
    (hother : other.BodyStandsAt root offset' address)
    (hoffset : offset < part.body.length) (hoffset' : offset' < other.body.length) :
  part = other
  := by
  obtain ⟨parent, index, hstands, rfl⟩ := hpart
  obtain ⟨parent', index', hstands', heq⟩ := hother
  obtain ⟨rfl, hindex⟩ := List.append_inj' heq rfl
  have hposition : index + 1 + offset = index' + 1 + offset' := (List.cons.inj hindex).1
  rcases Nat.lt_trichotomy index index' with hlt | rfl | hlt
  · have hbody := hstands.body_length_lt h h' hstands' hlt
    omega
  · apply hstands.eq h h' hstands'
  · have hbody := hstands'.body_length_lt h' h hstands hlt
    omega

/-! ### Tables -/

/-- The table of a section stands at an address. -/
def TableStandsAt (root : Node) (part : Section) (address : Address) : Prop :=
  ∃ offset, part.body.findIdx? (·.kind = .table) = some offset
    ∧ part.BodyStandsAt root offset address

/-- A table belongs to one section. -/
theorem TableStandsAt.eq (h : part ∈ ofRoot root) (h' : other ∈ ofRoot root)
    (hpart : part.TableStandsAt root address) (hother : other.TableStandsAt root address) :
  part = other
  := by
  obtain ⟨offset, hoffset, hstands⟩ := hpart
  obtain ⟨offset', hoffset', hstands'⟩ := hother
  rw [List.findIdx?_eq_some_iff_getElem] at hoffset hoffset'
  obtain ⟨hlt, -⟩ := hoffset
  obtain ⟨hlt', -⟩ := hoffset'
  apply hstands.eq h h' hstands' hlt hlt'

/-- The table of a section is what is found at its address. -/
theorem table?_eq_some_iff {table : Node} (h : part ∈ ofRoot root) :
  part.table? = some table
    ↔ ∃ address after, part.TableStandsAt root address
      ∧ Place.at? ⟨root, []⟩ address = some ⟨table, after⟩
  := by
  rw [table?, List.find?_eq_bind_findIdx?_getElem?, Option.bind_eq_some_iff]
  constructor
  · rintro ⟨offset, hoffset, hnode⟩
    obtain ⟨hlt, -⟩ := List.getElem?_eq_some_iff.mp hnode
    obtain ⟨address, hstands⟩ := exists_bodyStandsAt h hlt
    obtain ⟨after, hat⟩ := hstands.at?_eq h hnode
    use address, after, ⟨offset, hoffset, hstands⟩
  · rintro ⟨address, after, ⟨offset, hoffset, hstands⟩, hat⟩
    obtain ⟨hlt, -⟩ := List.findIdx?_eq_some_iff_getElem.mp hoffset
    have hnode := List.getElem?_eq_getElem hlt
    obtain ⟨after', hat'⟩ := hstands.at?_eq h hnode
    rw [hat] at hat'
    obtain ⟨rfl, -⟩ := Place.mk.inj (Option.some.inj hat')
    use offset, hoffset

end ReadmeAudit.Section
