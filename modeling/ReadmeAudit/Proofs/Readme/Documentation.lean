import Mathlib.Data.Set.Basic
import ReadmeAudit.Proofs.Distinct
import ReadmeAudit.Proofs.Markdown.Outermost
import ReadmeAudit.Proofs.Text.Blank
import ReadmeAudit.Readme.Content

/-!
# What a README documents

`Readme.documentedItems names` is the set of the items that the sections of some names document,
and `Readme.documentedResources` and `Readme.documentedDataSources` are the sets of what the
resource links in scope name. These sets say what is documented without saying how it is found: the
sections are given by the headings of level 2 that are in no other heading, and the links are the
outermost ones. The queries `Readme.items` and `Readme.inventory` list exactly their members.
-/

namespace ReadmeAudit

open Text Markdown

/-! ### Sections by name -/

namespace Section

/-- A section of a tree is what a heading of level 2 that is in no other heading stands for. -/
def IsIn (root : Node) (part : Section) : Prop :=
  ∃ address heading, Place.Outermost Kind.isHeading ⟨root, []⟩ address heading
    ∧ heading.node.isHeadingOf 2 = true
    ∧ part.title = strip heading.node.plainText ∧ part.after = heading.after

theorem collect_gathers :
  Gathers Kind.isHeading (·.headingLevel? == some 2) collect
  := by
  intro place found
  rw [collect, Kind.isHeading, Node.headingLevel?]
  cases hlevel : place.node.kind.headingLevel? with
  | none => rfl
  | some level => simp [hlevel]

/-- The sections of a tree are collected, and numbered. -/
theorem exists_mem_ofRoot_iff {root : Node} {part : Section} :
  (∃ number, { part with number := number } ∈ ofRoot root) ↔ part.IsIn root
  := by
  constructor
  · rintro ⟨number, h⟩
    obtain ⟨⟨heading, index⟩, hheading, heq⟩ := List.mem_map.mp h
    obtain ⟨-, htitle, hafter⟩ := Section.mk.inj heq
    rw [List.mk_mem_zipIdx_iff_getElem?] at hheading
    have hmem := List.mem_reverse.mp (List.mem_of_getElem? hheading)
    obtain ⟨address, houtermost, hlevel⟩ := collect_gathers.mem_walk_iff.mp hmem
    use address, heading, houtermost, hlevel, htitle.symm, hafter.symm
  · rintro ⟨address, heading, houtermost, hlevel, htitle, hafter⟩
    have hmem := collect_gathers.mem_walk_iff.mpr ⟨address, houtermost, hlevel⟩
    obtain ⟨index, hindex⟩ := List.getElem?_of_mem (List.mem_reverse.mpr hmem)
    use index
    rw [htitle, hafter]
    apply List.mem_map.mpr
    use (heading, index), List.mk_mem_zipIdx_iff_getElem?.mpr hindex

/-- Sections with the same number are the same. -/
theorem eq_of_number_eq {root : Node} {part other : Section}
    (h : part ∈ ofRoot root) (h' : other ∈ ofRoot root) (hnumber : part.number = other.number) :
  part = other
  := by
  obtain ⟨⟨place, number⟩, hplace, rfl⟩ := List.mem_map.mp h
  obtain ⟨⟨place', number'⟩, hplace', rfl⟩ := List.mem_map.mp h'
  obtain rfl : number = number' := hnumber
  rw [List.mk_mem_zipIdx_iff_getElem?] at hplace hplace'
  rw [hplace] at hplace'
  obtain rfl := Option.some.inj hplace'
  rfl

end Section

/-- A blank name denotes nothing. -/
theorem SectionName.denotes_of_blank {expected : String} (h : (strip expected).isEmpty = true)
    (observed : String) :
  denotes observed expected = false
  := by
  simp [denotes, h]

namespace Readme

/-- A section is one of the sections of some names if one of the names denotes it. -/
def IsSectionOf (readme : Readme) (names : List String) (part : Section) : Prop :=
  part.IsIn readme.root ∧ ∃ name ∈ names, SectionName.denotes part.title name = true

variable {readme : Readme} {names : List String}

@[simp]
theorem mem_denoted_iff {name : String} {part : Section} :
  part ∈ readme.denoted name
    ↔ part ∈ readme.sections ∧ SectionName.denotes part.title name = true
  := by
  rw [denoted]
  split
  · next hblank => simp [SectionName.denotes_of_blank hblank]
  · apply List.mem_filter

/-- The sections found under some names are the sections that one of the names denotes: none is lost
when each is counted once. -/
@[simp]
theorem mem_merge_iff {part : Section} :
  part ∈ Section.merge (names.map readme.denoted)
    ↔ part ∈ readme.sections ∧ ∃ name ∈ names, SectionName.denotes part.title name = true
  := by
  have hmem : ∀ part, part ∈ (names.map readme.denoted).flatten
      ↔ part ∈ readme.sections ∧ ∃ name ∈ names, SectionName.denotes part.title name = true := by
    intro part
    simp only [List.mem_flatten, List.mem_map, exists_exists_and_eq_and, mem_denoted_iff]
    constructor
    · rintro ⟨name, hname, hpart, hdenotes⟩
      use hpart, name
    · rintro ⟨hpart, name, hname, hdenotes⟩
      use name, hname
  rw [Section.merge, mem_distinctBy_iff, hmem]
  intro first hfirst second hsecond
  rw [hmem, readme.sections_eq] at hfirst hsecond
  apply Section.eq_of_number_eq hfirst.1 hsecond.1

/-- What is found in the sections of some names is in one of them, if it does not depend on how they
are numbered. -/
theorem exists_mem_merge_iff {P : Section → Prop}
    (hP : ∀ part number, P { part with number := number } ↔ P part) :
  (∃ part ∈ Section.merge (names.map readme.denoted), P part)
    ↔ ∃ part, readme.IsSectionOf names part ∧ P part
  := by
  simp only [mem_merge_iff, IsSectionOf, ← Section.exists_mem_ofRoot_iff, ← readme.sections_eq]
  constructor
  · rintro ⟨part, ⟨hpart, hdenotes⟩, h⟩
    use part, ⟨⟨part.number, hpart⟩, hdenotes⟩
  · rintro ⟨part, ⟨⟨number, hpart⟩, hdenotes⟩, h⟩
    use { part with number := number }, ⟨hpart, hdenotes⟩
    apply (hP part number).mpr h

theorem exists_isSectionOf_iff :
  (∃ part, readme.IsSectionOf names part) ↔ ∃ part, part ∈ Section.merge (names.map readme.denoted)
  := by
  have h := @exists_mem_merge_iff readme names (fun _ => True) (fun _ _ => Iff.rfl)
  simp only [and_true] at h
  apply h.symm

theorem merge_isEmpty_iff :
  (Section.merge (names.map readme.denoted)).isEmpty = true
    ↔ ¬ ∃ part, readme.IsSectionOf names part
  := by
  rw [exists_isSectionOf_iff, ← Bool.not_eq_false, List.isEmpty_eq_false_iff_exists_mem]

theorem any_hasSection_iff :
  names.any readme.hasSection = true ↔ ∃ part, readme.IsSectionOf names part
  := by
  simp only [exists_isSectionOf_iff, List.any_eq_true, hasSection, Bool.not_eq_true',
    List.isEmpty_eq_false_iff_exists_mem, mem_denoted_iff, mem_merge_iff]
  constructor
  · rintro ⟨name, hname, part, hpart, hdenotes⟩
    use part, hpart, name
  · rintro ⟨part, hpart, name, hname, hdenotes⟩
    use name, hname, part

theorem hasSection_iff {name : String} :
  readme.hasSection name = true ↔ ∃ part, readme.IsSectionOf [name] part
  := by
  rw [← any_hasSection_iff, List.any_cons, List.any_nil, Bool.or_false]

end Readme

/-! ### Items -/

/-- A section lists an item in a layout: under a heading of level 3 that gives its name, or in the
first cell of a body row of its table. -/
def Section.Lists (layout : Layout) (part : Section) (item : String) : Prop :=
  match layout with
  | .document =>
    ∃ node ∈ part.body, node.isHeadingOf 3 = true ∧ headingName node.plainText = item ∧ item ≠ ""
  | .table =>
    ∃ table ∈ part.table?, ∃ row ∈ Table.rows .tableBody table, item ∈ Table.itemName? row

theorem Section.mem_items_iff {layout : Layout} {part : Section} {item : String} :
  item ∈ part.items layout ↔ part.Lists layout item
  := by
  cases layout with
  | document =>
      simp only [items, headingItems, Lists, List.mem_filterMap, List.mem_filter, and_assoc]
      apply exists_congr
      intro node
      apply and_congr_right
      intro _
      apply and_congr_right
      intro _
      by_cases hempty : (headingName node.plainText).isEmpty
      · rw [if_pos hempty]
        rw [String.isEmpty_iff] at hempty
        rw [hempty]
        simp [eq_comm]
      · rw [if_neg hempty, Option.some.injEq]
        rw [String.isEmpty_iff] at hempty
        constructor
        · rintro rfl
          use rfl
        · apply And.left
  | table =>
      simp only [items, Lists]
      cases part.table? with
      | none => simp
      | some table => simp [Table.itemNames]

namespace Readme

variable (readme : Readme)

/-- An item has an anchor of a type if one has its name, case ignored. -/
def HasAnchor (type : AnchorType) (item : String) : Prop :=
  ∃ name ∈ Anchor.names type readme.source, lower name = lower item

/-- An item is listed under some names: in one of their sections, or, if there is none, by an
anchor of a type that the names mention. -/
def Lists (names : List String) (item : String) : Prop :=
  (∃ part, readme.IsSectionOf names part ∧ part.Lists readme.layout item)
    ∨ (¬ ∃ part, readme.IsSectionOf names part)
      ∧ ∃ type : AnchorType, (∃ name ∈ names, type.isMentionedIn name = true)
        ∧ item ∈ Anchor.names type readme.source

/-- An item is marked as something else than some names ask for: it has an anchor, and none of the
type that they ask for. -/
def MarkedOtherwise (names : List String) (item : String) : Prop :=
  ∃ expected, AnchorType.expectedBy names = some expected
    ∧ (∃ type, readme.HasAnchor type item) ∧ ¬ readme.HasAnchor expected item

/-- The items that a README documents under some names. -/
def documentedItems (names : List String) : Set String :=
  {item | readme.Lists names item ∧ ¬ readme.MarkedOtherwise names item}

variable {readme} {names : List String} {item : String}

theorem mem_anchors_iff {type : AnchorType} :
  (type, lower item) ∈ readme.anchors ↔ readme.HasAnchor type item
  := by
  cases type with
  | input => simp [anchors, HasAnchor, AnchorType.all]
  | output => simp [anchors, HasAnchor, AnchorType.all]

/-- Anchors contradict an item exactly when it has one, and none of the expected type. -/
theorem contradicts_iff {expected : AnchorType} :
  contradicts readme.anchors expected item = true
    ↔ (∃ type, readme.HasAnchor type item) ∧ ¬ readme.HasAnchor expected item
  := by
  have hmem : ∀ type, type ∈ (readme.anchors.filter (·.2 == lower item)).map (·.1)
      ↔ readme.HasAnchor type item := by
    intro type
    rw [← mem_anchors_iff]
    simp
  rw [contradicts, Bool.and_eq_true, Bool.not_eq_true', Bool.not_eq_true',
    List.isEmpty_eq_false_iff_exists_mem, ← Bool.not_eq_true, List.contains_iff_mem]
  simp only [hmem]

theorem mem_agreeing_iff {items : List String} :
  item ∈ readme.agreeing names items ↔ item ∈ items ∧ ¬ readme.MarkedOtherwise names item
  := by
  rw [agreeing, MarkedOtherwise]
  cases AnchorType.expectedBy names with
  | none => simp
  | some expected =>
      simp only [List.mem_filter, Bool.not_eq_true', ← Bool.not_eq_true, contradicts_iff,
        Option.some.injEq, exists_eq_left']

theorem mem_anchoredItems_iff :
  item ∈ readme.anchoredItems names
    ↔ ∃ type : AnchorType, (∃ name ∈ names, type.isMentionedIn name = true)
      ∧ item ∈ Anchor.names type readme.source
  := by
  have hall : ∀ type : AnchorType, type ∈ AnchorType.all := by
    intro type
    cases type with
    | input => decide
    | output => decide
  simp only [anchoredItems, List.mem_eraseDups, List.mem_flatMap, List.mem_filter, hall, true_and,
    List.any_eq_true]

/-- The items that a README gives under some names are those that it documents under them. -/
theorem mem_items_iff :
  item ∈ readme.items names ↔ item ∈ readme.documentedItems names
  := by
  rw [items, itemsIn, mem_agreeing_iff, candidates]
  apply and_congr_left
  intro _
  by_cases hfound : ∃ part, readme.IsSectionOf names part
  · rw [if_neg (by simpa only [merge_isEmpty_iff, not_not] using hfound)]
    simp only [List.mem_flatMap, Section.mem_items_iff, Lists, hfound, not_true_eq_false, false_and,
      or_false]
    apply exists_mem_merge_iff
    intro part number
    apply Iff.rfl
  · rw [if_pos (merge_isEmpty_iff.mpr hfound), mem_anchoredItems_iff]
    constructor
    · intro h
      apply Or.inr ⟨hfound, h⟩
    · rintro (⟨part, hpart, -⟩ | ⟨-, h⟩)
      · apply absurd ⟨part, hpart⟩ hfound
      · apply h

end Readme

/-! ### Resources -/

/-- One side of an inventory: the data sources or the resources. -/
def Inventory.side (inventory : Inventory) : (dataSources : Bool) → List String
  | true => inventory.dataSources
  | false => inventory.resources

namespace Readme

variable (readme : Readme)

/-- The sections for resources and data sources. -/
def IsResourceSection (part : Section) : Prop :=
  readme.IsSectionOf ["Resources"] part

/-- A link is in scope if it is an outermost link in the body of a section for resources, or, if
there is no such section, of the whole document. -/
def InScope (link : Node) : Prop :=
  (∃ part, readme.IsResourceSection part
      ∧ ∃ node ∈ part.body, node.HasOutermost isLink link)
    ∨ (¬ ∃ part, readme.IsResourceSection part) ∧ readme.root.HasOutermost isLink link

/-- A resource link is a link in scope whose text begins like the name of a resource. -/
def IsResourceLink (link : Node) : Prop :=
  readme.InScope link ∧ readme.namesResource link.plainText = true

/-- The names that the resource links give, of data sources or of resources. -/
def linkedNames (dataSources : Bool) : Set String :=
  {name | ∃ link, readme.IsResourceLink link ∧ leadsToDataSource link.kind = dataSources
    ∧ name ∈ linkNames link.plainText}

/-- The resources that a README documents. -/
def documentedResources : Set String :=
  readme.linkedNames false

/-- The data sources that a README documents. -/
def documentedDataSources : Set String :=
  readme.linkedNames true

variable {readme}

theorem mem_links_iff {link : Node} :
  link ∈ readme.links (Section.merge [readme.denoted "Resources"]) ↔ readme.InScope link
  := by
  have hempty : (Section.merge [readme.denoted "Resources"]).isEmpty = true
      ↔ ¬ ∃ part, readme.IsResourceSection part :=
    @merge_isEmpty_iff readme ["Resources"]
  rw [links, InScope]
  by_cases hfound : ∃ part, readme.IsResourceSection part
  · have hmerge : (∃ part ∈ Section.merge [readme.denoted "Resources"],
          ∃ node ∈ part.body, node.HasOutermost isLink link)
        ↔ ∃ part, readme.IsResourceSection part
          ∧ ∃ node ∈ part.body, node.HasOutermost isLink link :=
      @exists_mem_merge_iff readme ["Resources"] _ (fun _ _ => Iff.rfl)
    rw [if_neg (by simpa only [hempty, not_not] using hfound), ← hmerge]
    simp only [List.mem_map, List.mem_flatMap, ← Node.exists_mem_find_iff, hfound,
      not_true_eq_false, false_and, or_false]
    constructor
    · rintro ⟨place, ⟨part, hpart, node, hnode, hplace⟩, rfl⟩
      use part, hpart, node, hnode, place
    · rintro ⟨part, hpart, node, hnode, place, hplace, rfl⟩
      use place, ⟨part, hpart, node, hnode, hplace⟩
  · rw [if_pos (hempty.mpr hfound), List.mem_map, Node.exists_mem_find_iff]
    constructor
    · intro h
      apply Or.inr ⟨hfound, h⟩
    · rintro (⟨part, hpart, -⟩ | ⟨-, h⟩)
      · apply absurd ⟨part, hpart⟩ hfound
      · apply h

@[simp]
theorem mem_foldl_addNew {names start : List String} {name : String} :
  name ∈ names.foldl addNew start ↔ name ∈ start ∨ name ∈ names
  := by
  induction names generalizing start with
  | nil => simp
  | cons first names ih =>
      have hfirst : name ∈ addNew start first ↔ name ∈ start ∨ name = first := by
        rw [addNew]
        split
        · next hthere =>
          rw [List.contains_iff_mem] at hthere
          constructor
          · apply Or.inl
          · rintro (h | rfl)
            · apply h
            · apply hthere
        · rw [List.mem_append, List.mem_singleton]
      rw [List.foldl_cons, ih, hfirst, List.mem_cons, or_assoc]

theorem mem_side_addLink_iff
    {inventory : Inventory} {link : Node} {dataSources : Bool} {name : String} :
  name ∈ (readme.addLink inventory link).side dataSources
    ↔ name ∈ inventory.side dataSources
      ∨ readme.namesResource link.plainText = true ∧ leadsToDataSource link.kind = dataSources
        ∧ name ∈ linkNames link.plainText
  := by
  rw [addLink]
  split
  · next hnames =>
    cases hleads : leadsToDataSource link.kind with
    | true =>
        cases dataSources with
        | true => simp [Inventory.side, hnames]
        | false => simp [Inventory.side]
    | false =>
        cases dataSources with
        | true => simp [Inventory.side]
        | false => simp [Inventory.side, hnames]
  · next hnames => simp [hnames]

/-- Links put together document what each of them documents. -/
theorem mem_side_foldl_iff
    {links : List Node} {inventory : Inventory} {dataSources : Bool} {name : String} :
  name ∈ (links.foldl readme.addLink inventory).side dataSources
    ↔ name ∈ inventory.side dataSources
      ∨ ∃ link ∈ links, readme.namesResource link.plainText = true
        ∧ leadsToDataSource link.kind = dataSources ∧ name ∈ linkNames link.plainText
  := by
  induction links generalizing inventory with
  | nil => simp
  | cons link links ih =>
      rw [List.foldl_cons, ih, mem_side_addLink_iff, List.exists_mem_cons_iff, or_assoc]

/-- The inventory of a README before it is asked whether there is anything in it. -/
def gathered (readme : Readme) : Inventory :=
  (readme.links (Section.merge [readme.denoted "Resources"])).foldl readme.addLink ⟨[], []⟩

theorem mem_side_gathered_iff {dataSources : Bool} {name : String} :
  name ∈ readme.gathered.side dataSources ↔ name ∈ readme.linkedNames dataSources
  := by
  have hnil : name ∉ (Inventory.mk [] []).side dataSources := by
    cases dataSources with
    | true => apply List.not_mem_nil
    | false => apply List.not_mem_nil
  rw [gathered, mem_side_foldl_iff, or_iff_right hnil]
  simp only [mem_links_iff, linkedNames, IsResourceLink, Set.mem_ofPred_eq, and_assoc]

theorem mem_gathered_resources_iff {name : String} :
  name ∈ readme.gathered.resources ↔ name ∈ readme.documentedResources
  := @mem_side_gathered_iff readme false name

theorem mem_gathered_dataSources_iff {name : String} :
  name ∈ readme.gathered.dataSources ↔ name ∈ readme.documentedDataSources
  := @mem_side_gathered_iff readme true name

/-- Something is gathered exactly when there is a resource link. -/
theorem gathered_isEmpty_iff :
  (readme.gathered.resources.isEmpty && readme.gathered.dataSources.isEmpty) = true
    ↔ ¬ ∃ link, readme.IsResourceLink link
  := by
  rw [Bool.and_eq_true, List.isEmpty_iff, List.isEmpty_iff]
  constructor
  · rintro ⟨hresources, hdataSources⟩ ⟨link, hlink⟩
    have hname : before '.' (dropLead "[" (before ']' link.plainText))
        ∈ readme.gathered.side (leadsToDataSource link.kind) := by
      apply mem_side_gathered_iff.mpr
      use link, hlink, rfl
      simp [linkNames]
    cases hleads : leadsToDataSource link.kind with
    | true => simp [hleads, Inventory.side, hdataSources] at hname
    | false => simp [hleads, Inventory.side, hresources] at hname
  · intro hnone
    have hside : ∀ dataSources, readme.gathered.side dataSources = [] := by
      intro dataSources
      rw [List.eq_nil_iff_forall_not_mem]
      intro name hname
      obtain ⟨link, hlink, -⟩ := mem_side_gathered_iff.mp hname
      apply hnone ⟨link, hlink⟩
    use hside false, hside true

theorem inventory_eq :
  readme.inventory
    = if readme.gathered.resources.isEmpty && readme.gathered.dataSources.isEmpty then
        .error .noResources
      else .ok readme.gathered
  := rfl

theorem inventory_of_no_resourceLink (h : ¬ ∃ link, readme.IsResourceLink link) :
  readme.inventory = .error .noResources
  := by
  rw [inventory_eq, if_pos (gathered_isEmpty_iff.mpr h)]

/-- Without a resource link nothing is documented. -/
theorem notMem_linkedNames (h : ¬ ∃ link, readme.IsResourceLink link) (dataSources : Bool)
    (name : String) :
  name ∉ readme.linkedNames dataSources
  := by
  rintro ⟨link, hlink, -⟩
  apply h ⟨link, hlink⟩

theorem inventory_of_resourceLink (h : ∃ link, readme.IsResourceLink link) :
  readme.inventory = .ok readme.gathered
  := by
  rw [inventory_eq, if_neg (by simpa only [gathered_isEmpty_iff, not_not] using h)]

end Readme

end ReadmeAudit
