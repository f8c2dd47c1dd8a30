import ReadmeAudit.Proofs.Markdown.LineContent
import ReadmeAudit.Proofs.Readme.Origin

/-!
# Links in scope

The resources of a README are read from the links in scope: the outermost links in the ranges of the
headings for resources, or those of the whole tree if there is no such heading. They are met section
by section, and those of a section inside another are met twice. Where no heading is below a link,
as in the tree of any document, each link of a later section is one of an earlier section or comes
after all of its links. So the links, each once, are in the order of the document.
-/

namespace ReadmeAudit

open Text Markdown

/-! ### Links below a node -/

namespace Markdown.Node

/-- A link is an outermost one at or below a node, at an address from there. -/
def HasLinkAt (node : Node) (lower : Address) (link : Node) : Prop :=
  ∃ after, Place.Outermost Readme.isLink ⟨node, []⟩ lower ⟨link, after⟩

/-- The outermost links at or below the node at an address, with their addresses. -/
def linksAt (upper : Address) (node : Node) : List (Address × Node) :=
  (gatheredFrom Readme.isLink (fun _ => true) [] node).map fun found =>
    (upper ++ found.1, found.2.node)

variable {node link : Node} {upper address : Address}

@[simp]
theorem mem_linksAt_iff :
  (address, link) ∈ node.linksAt upper
    ↔ ∃ lower, address = upper ++ lower ∧ node.HasLinkAt lower link
  := by
  simp only [linksAt, List.mem_map, Prod.exists, Prod.mk.injEq, mem_gatheredFrom_iff, and_true,
    HasLinkAt]
  constructor
  · rintro ⟨lower, ⟨link, after⟩, houtermost, rfl, rfl⟩
    use lower, rfl, after
  · rintro ⟨lower, rfl, after, houtermost⟩
    use lower, ⟨link, after⟩, houtermost, rfl

theorem map_snd_linksAt (upper : Address) (node : Node) :
  (node.linksAt upper).map Prod.snd = (node.find Readme.isLink).map Place.node
  := by
  rw [linksAt, Node.find_eq, List.map_map, List.map_map]
  rfl

theorem linksAt_sorted (upper : Address) (node : Node) :
  ((node.linksAt upper).map Prod.fst).Pairwise Address.Precedes
  := by
  have hmap : (node.linksAt upper).map Prod.fst
      = ((gatheredFrom Readme.isLink (fun _ => true) [] node).map Prod.fst).map (upper ++ ·) := by
    rw [linksAt, List.map_map, List.map_map]
    rfl
  rw [hmap]
  apply (gatheredFrom_sorted [] node).map
  intro first second h
  apply h.append_left upper

/-- The links below a node are found at their addresses. -/
theorem HasLinkAt.exists_at? {start : Place} {after : List Node} {lower : Address}
    (h : node.HasLinkAt lower link) (hat : start.at? upper = some ⟨node, after⟩) :
  ∃ after, start.at? (upper ++ lower) = some ⟨link, after⟩
  := by
  obtain ⟨after', houtermost⟩ := h
  obtain ⟨after', houtermost⟩ := houtermost.exists_of_after after
  use after'
  simp [hat, houtermost.at?_eq]

end Markdown.Node

/-! ### Links under a heading -/

namespace Section

/-- The outermost links in the range of the heading at an address. -/
def linksUnder (address : Address) (heading : Place) : List (Address × Node) :=
  (range address heading).flatMap fun found => found.2.linksAt found.1

variable {root : Node} {start start' address : Address} {heading heading' : Place} {link : Node}

@[simp]
theorem mem_linksUnder_iff :
  (address, link) ∈ linksUnder start heading
    ↔ ∃ upper node lower, (upper, node) ∈ range start heading ∧ address = upper ++ lower
      ∧ node.HasLinkAt lower link
  := by
  simp only [linksUnder, List.mem_flatMap, Prod.exists, Node.mem_linksAt_iff]
  constructor
  · rintro ⟨upper, node, hnode, lower, haddress, hlink⟩
    use upper, node, lower
  · rintro ⟨upper, node, lower, hnode, haddress, hlink⟩
    use upper, node, hnode, lower

/-- The links of a section are those below the nodes of its body. -/
theorem map_snd_linksUnder (address : Address) {part : Section}
    (h : part.after = heading.after) :
  (linksUnder address heading).map Prod.snd
    = (part.body.flatMap (·.find Readme.isLink)).map Place.node
  := by
  have hbody : part.body = (range address heading).map Prod.snd := by
    rw [range, map_snd_placed, body, h]
  rw [linksUnder, hbody, List.map_flatMap, List.map_flatMap, List.flatMap_map]
  simp only [Node.map_snd_linksAt]

theorem linksUnder_sorted (address : Address) (heading : Place) :
  ((linksUnder address heading).map Prod.fst).Pairwise Address.Precedes
  := by
  have hlength : ∀ found ∈ range address heading,
      found.1.length = (address.later 0).length := by
    rintro ⟨upper, node⟩ hnode
    obtain ⟨offset, rfl, -⟩ := mem_placed_iff.mp hnode
    simp [Address.later]
  rw [linksUnder, List.map_flatMap, List.pairwise_flatMap]
  constructor
  · intro found _
    apply Node.linksAt_sorted
  · apply (List.pairwise_map.mp (range_sorted address heading)).imp_of_mem
    intro first second hfirst hsecond hprecedes lower hlower lower' hlower'
    obtain ⟨⟨lower, link⟩, hlink, rfl⟩ := List.mem_map.mp hlower
    obtain ⟨⟨lower', link'⟩, hlink', rfl⟩ := List.mem_map.mp hlower'
    obtain ⟨rest, rfl, -⟩ := Node.mem_linksAt_iff.mp hlink
    obtain ⟨rest', rfl, -⟩ := Node.mem_linksAt_iff.mp hlink'
    apply hprecedes.append ((hlength first hfirst).trans (hlength second hsecond).symm)

/-- The links under a heading come after it. -/
theorem precedes_of_mem_linksUnder (h : (address, link) ∈ linksUnder start heading) :
  start.Precedes address
  := by
  obtain ⟨upper, node, lower, hnode, rfl, -⟩ := mem_linksUnder_iff.mp h
  obtain ⟨offset, rfl, -⟩ := mem_placed_iff.mp hnode
  apply (Address.precedes_later start offset).append_right

/-- The links under a heading are found at their addresses. -/
theorem HeadingAt.at?_of_mem_linksUnder (h : HeadingAt root start heading)
    (hlink : (address, link) ∈ linksUnder start heading) :
  ∃ after, Place.at? ⟨root, []⟩ address = some ⟨link, after⟩
  := by
  obtain ⟨upper, node, lower, hnode, rfl, hlower⟩ := mem_linksUnder_iff.mp hlink
  obtain ⟨after, hat⟩ := h.at?_of_mem_range hnode
  apply hlower.exists_at? hat

/-- No link stands on the way down from a place to a heading, if no heading is below a link. -/
theorem HeadingAt.isLink_eq_false (hroot : root.LinksHeadless) (h : HeadingAt root start heading)
    {between rest : Address} {place : Place} (hat : Place.at? ⟨root, []⟩ between = some place)
    (hstart : start = between ++ rest) :
  Readme.isLink place.node.kind = false
  := by
  rw [← Bool.not_eq_true]
  intro hlink
  have hheadless : place.node.Headless := (Node.Every.at? hroot hat).self hlink
  have hheading : place.at? rest = some heading := by
    simp [← h.outermost.at?_eq, hstart, hat]
  have hnot := (Node.Every.at? hheadless hheading).self
  rw [h.outermost.holds] at hnot
  cases hnot

/-- A heading of level 2 is not itself in the range of another. -/
theorem HeadingAt.notMem_range (h : HeadingAt root start heading)
    (h' : HeadingAt root start' heading') (node : Node) :
  (start', node) ∉ range start heading
  := by
  intro hnode
  obtain ⟨after, hat⟩ := h.at?_of_mem_range hnode
  obtain rfl : heading' = ⟨node, after⟩ :=
    Option.some.inj (h'.outermost.at?_eq.symm.trans hat)
  obtain ⟨offset, -, hoffset⟩ := mem_placed_iff.mp hnode
  have hopen := List.mem_takeWhile_imp (List.mem_of_getElem? hoffset)
  have hlevel : node.headingLevel? = some 2 := eq_of_beq h'.level
  rw [hlevel] at hopen
  cases hopen

/-- The links of a section inside another are links of that one too, if no heading is below a
link. -/
theorem HeadingAt.mem_linksUnder_of_nested (hroot : root.LinksHeadless)
    (h : HeadingAt root start heading) (h' : HeadingAt root start' heading')
    {upper rest : Address} {node : Node} (hnode : (upper, node) ∈ range start heading)
    (hnested : start' = upper ++ rest) (hlink : (address, link) ∈ linksUnder start' heading') :
  (address, link) ∈ linksUnder start heading
  := by
  obtain ⟨upper', node', lower, hnode', rfl, after', hlower⟩ := mem_linksUnder_iff.mp hlink
  rcases List.eq_nil_or_concat' rest with rfl | ⟨rest, index, rfl⟩
  · rw [List.append_nil] at hnested
    apply absurd hnode
    rw [← hnested]
    apply h.notMem_range h'
  · obtain ⟨after, hat⟩ := h.at?_of_mem_range hnode
    obtain ⟨after', hat'⟩ := h'.at?_of_mem_range hnode'
    obtain ⟨offset, rfl, -⟩ := mem_placed_iff.mp hnode'
    rw [hnested, ← List.append_assoc, Address.later_concat, List.append_assoc] at hat' ⊢
    rw [Place.at?_append, hat, Option.bind_some] at hat'
    apply mem_linksUnder_iff.mpr
    use upper, node, rest ++ [index + (offset + 1)] ++ lower, hnode, by simp
    have habove : ∀ between, between <+: rest ++ [index + (offset + 1)] →
        between ≠ rest ++ [index + (offset + 1)] →
          ∀ found, Place.at? ⟨node, after⟩ between = some found →
            Readme.isLink found.node.kind = false := by
      -- What is above the links of the inner section is above its heading.
      intro between hprefix hne found hfound
      obtain ⟨tail, rfl⟩ := (List.prefix_concat_iff.mp hprefix).resolve_left hne
      have hbetween : Place.at? ⟨root, []⟩ (upper ++ between) = some found := by
        simp [hat, hfound]
      apply h'.isLink_eq_false hroot hbetween
      rw [hnested, List.append_assoc, List.append_assoc]
    obtain ⟨after', hlower⟩ := hlower.exists_of_after after'
    apply (Place.Outermost.append hat' habove hlower).exists_of_after

/-- The range of a heading has no gaps. -/
theorem exists_mem_range_of_le {parent : Address} {index position later : Nat} {node : Node}
    (h : (parent ++ [later], node) ∈ range (parent ++ [index]) heading) (hlt : index < position)
    (hle : position ≤ later) :
  ∃ node, (parent ++ [position], node) ∈ range (parent ++ [index]) heading
  := by
  obtain ⟨offset, heq, hoffset⟩ := mem_placed_iff.mp h
  have hlater : later = index + (offset + 1) := by simpa using heq
  obtain ⟨hlength, -⟩ := List.getElem?_eq_some_iff.mp hoffset
  have hposition := Nat.lt_of_le_of_lt (show position - index - 1 ≤ offset by omega) hlength
  refine ⟨_, mem_placed_iff.mpr ⟨position - index - 1, ?_, List.getElem?_eq_getElem hposition⟩⟩
  rw [Address.later_concat, show index + (position - index - 1 + 1) = position by omega]

/-- Of two headings, each link under the later one is also under the earlier one, or comes after all
links there, if no heading is below a link. -/
theorem HeadingAt.mem_linksUnder_or_precedes (hroot : root.LinksHeadless)
    (h : HeadingAt root start heading) (h' : HeadingAt root start' heading')
    (hprecedes : start.Precedes start') (hlink : (address, link) ∈ linksUnder start' heading') :
  (address, link) ∈ linksUnder start heading
    ∨ ∀ found ∈ linksUnder start heading, found.1.Precedes address
  := by
  have hafter := precedes_of_mem_linksUnder hlink
  rcases List.eq_nil_or_concat' start with rfl | ⟨parent, index, rfl⟩
  · -- The root has no siblings.
    obtain rfl := Option.some.inj h.outermost.at?_eq
    apply Or.inr
    simp [linksUnder, range, placed]
  · rcases hprecedes.cases_concat with hbelow | ⟨position, rest, hlt, rfl⟩ | hlater
    · -- No heading is below another.
      have hnot := h'.outermost.above _ hbelow hprecedes.ne heading h.outermost.at?_eq
      rw [h.outermost.holds] at hnot
      cases hnot
    · by_cases hrange : ∃ node, (parent ++ [position], node) ∈ range (parent ++ [index]) heading
      · obtain ⟨node, hnode⟩ := hrange
        have hnested : parent ++ position :: rest = parent ++ [position] ++ rest := by simp
        apply Or.inl (h.mem_linksUnder_of_nested hroot h' hnode hnested hlink)
      · apply Or.inr
        rintro ⟨lower, link'⟩ hlink'
        obtain ⟨upper, node, rest', hnode, rfl, -⟩ := mem_linksUnder_iff.mp hlink'
        obtain ⟨offset, rfl, -⟩ := mem_placed_iff.mp hnode
        rw [Address.later_concat] at hnode ⊢
        have hbefore : index + (offset + 1) < position := by
          apply Nat.lt_of_not_le
          intro hle
          apply hrange (exists_mem_range_of_le hnode hlt hle)
        rw [List.append_assoc]
        apply Address.Precedes.trans (Address.Precedes.append_left parent _) hafter
        apply List.Lex.rel hbefore
    · apply Or.inr
      rintro ⟨lower, link'⟩ hlink'
      obtain ⟨upper, node, rest, hnode, rfl, -⟩ := mem_linksUnder_iff.mp hlink'
      obtain ⟨offset, rfl, -⟩ := mem_placed_iff.mp hnode
      rw [Address.later_concat, List.append_assoc]
      apply (hlater _).trans hafter

end Section

/-! ### Links in scope -/

namespace Readme

/-- A link is in scope at an address: it is an outermost link at or below a node in the range of a
heading for resources, or, if there is no such heading, in the whole tree. -/
def InScopeAt (readme : Readme) (address : Address) (link : Node) : Prop :=
  (∃ start heading, readme.HeadingOf ["Resources"] start heading
      ∧ ∃ upper node lower, (upper, node) ∈ Section.range start heading ∧ address = upper ++ lower
        ∧ node.HasLinkAt lower link)
    ∨ (¬ ∃ start heading, readme.HeadingOf ["Resources"] start heading)
      ∧ readme.root.HasLinkAt address link

/-- The links in scope in the order in which they are met, section by section. -/
def linksMet (readme : Readme) : List (Address × Node) :=
  if (readme.headingsOf ["Resources"]).isEmpty then readme.root.linksAt []
  else (readme.headingsOf ["Resources"]).flatMap fun found => Section.linksUnder found.1 found.2

/-- The links in scope, each once. -/
def scopedLinks (readme : Readme) : List (Address × Node) :=
  distinctBy Prod.fst readme.linksMet

variable {readme : Readme} {address : Address} {link : Node}

theorem headingsOf_isEmpty_iff {names : List String} :
  (readme.headingsOf names).isEmpty = true
    ↔ ¬ ∃ start heading, readme.HeadingOf names start heading
  := by
  rw [← Bool.not_eq_false, List.isEmpty_eq_false_iff_exists_mem]
  simp

@[simp]
theorem mem_linksMet_iff :
  (address, link) ∈ readme.linksMet ↔ readme.InScopeAt address link
  := by
  rw [linksMet, InScopeAt]
  by_cases hheading : ∃ start heading, readme.HeadingOf ["Resources"] start heading
  · rw [if_neg (by simpa only [headingsOf_isEmpty_iff, not_not] using hheading)]
    simp [hheading]
  · rw [if_pos (headingsOf_isEmpty_iff.mpr hheading), Node.mem_linksAt_iff]
    constructor
    · rintro ⟨lower, rfl, hlink⟩
      apply Or.inr ⟨hheading, hlink⟩
    · rintro (⟨start, heading, h, -⟩ | ⟨-, hlink⟩)
      · apply absurd ⟨start, heading, h⟩ hheading
      · use address, rfl

/-- The links in scope are found at their addresses. -/
theorem InScopeAt.exists_at? (h : readme.InScopeAt address link) :
  ∃ after, Place.at? ⟨readme.root, []⟩ address = some ⟨link, after⟩
  := by
  rcases h with ⟨start, heading, hheading, h⟩ | ⟨-, after, houtermost⟩
  · apply hheading.1.at?_of_mem_linksUnder (Section.mem_linksUnder_iff.mpr h)
  · use after, houtermost.at?_eq

/-- An address determines the link in scope there. -/
theorem InScopeAt.eq {link' : Node} (h : readme.InScopeAt address link)
    (h' : readme.InScopeAt address link') :
  link = link'
  := by
  obtain ⟨after, hat⟩ := h.exists_at?
  obtain ⟨after', hat'⟩ := h'.exists_at?
  apply (Place.mk.inj (Option.some.inj (hat.symm.trans hat'))).1

theorem eq_of_mem_linksMet {first second : Address × Node} (hfirst : first ∈ readme.linksMet)
    (hsecond : second ∈ readme.linksMet) (h : first.1 = second.1) :
  first = second
  := by
  obtain ⟨address, link⟩ := first
  obtain ⟨address', link'⟩ := second
  obtain rfl : address = address' := h
  rw [(mem_linksMet_iff.mp hfirst).eq (mem_linksMet_iff.mp hsecond)]

@[simp]
theorem mem_scopedLinks_iff :
  (address, link) ∈ readme.scopedLinks ↔ readme.InScopeAt address link
  := by
  rw [scopedLinks, mem_distinctBy_iff, mem_linksMet_iff]
  intro first hfirst second hsecond
  apply eq_of_mem_linksMet hfirst hsecond

/-- Where no heading is below a link, the links in scope are in the order of the document, even when
sections for resources are inside each other. -/
theorem scopedLinks_sorted (readme : Readme) (h : readme.root.LinksHeadless) :
  (readme.scopedLinks.map Prod.fst).Pairwise Address.Precedes
  := by
  have hsorted : (readme.headingsOf ["Resources"]).Pairwise fun first second =>
      first.1.Precedes second.1 := by
    simpa [headingsOf, firstAccepted] using (Section.headings_sorted readme.root).filter _
  rw [scopedLinks, linksMet]
  split
  · have hlinks := Node.linksAt_sorted [] readme.root
    rw [distinctBy_eq_self (hlinks.imp Address.Precedes.ne)]
    apply hlinks
  · apply distinctBy_flatten_pairwise Address.Precedes.ne
    · rw [List.forall_mem_map]
      intro found _
      apply Section.linksUnder_sorted
    · rw [List.pairwise_map]
      apply hsorted.imp_of_mem
      rintro first second hfirst hsecond hprecedes ⟨address, link⟩ hlink
      rcases (mem_headingsOf_iff.mp hfirst).1.mem_linksUnder_or_precedes h
        (mem_headingsOf_iff.mp hsecond).1 hprecedes hlink with hold | hafter
      · apply Or.inl (List.mem_map_of_mem hold)
      · apply Or.inr hafter

/-- The links that are read are those met in scope. -/
theorem links_eq (readme : Readme) :
  readme.links (Section.merge [readme.denoted "Resources"]) = readme.linksMet.map Prod.snd
  := by
  obtain ⟨numbered, hheadings, hmerge⟩ := readme.exists_merge_eq ["Resources"]
  rw [List.map_singleton] at hmerge
  rw [links, linksMet, hmerge, hheadings, List.isEmpty_map, List.isEmpty_map]
  split
  · rw [Node.map_snd_linksAt]
  · rw [List.flatMap_map, List.flatMap_map, List.map_flatMap, List.map_flatMap]
    apply List.flatMap_congr
    intro found _
    symm
    apply Section.map_snd_linksUnder
    rfl

theorem inScope_iff :
  readme.InScope link ↔ ∃ address, readme.InScopeAt address link
  := by
  rw [← mem_links_iff, links_eq]
  simp

end Readme

end ReadmeAudit
