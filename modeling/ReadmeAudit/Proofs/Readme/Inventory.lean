import ReadmeAudit.Proofs.Readme.Links
import ReadmeAudit.Proofs.Text.Blank

/-!
# Where resources come from

The resources and the data sources of a README are lists of names, to which each link in scope adds
the name that it gives and the base of that name, unless they are there. In the end these are the
names that the links give, each at its first occurrence. A link that is met twice adds nothing the
second time, so that it does not matter whether sections for resources lie inside each other.
-/

namespace ReadmeAudit

open Text Markdown

namespace Readme

/-! ### Names, each once -/

/-- Names that are added where they are not there yet are in the order of their first
occurrences. -/
theorem foldl_addNew_eraseDups (start names : List String) :
  names.foldl addNew start.eraseDups = (start ++ names).eraseDups
  := by
  induction names generalizing start with
  | nil => rw [List.foldl_nil, List.append_nil]
  | cons name names ih =>
      have hname : addNew start.eraseDups name = (start ++ [name]).eraseDups := by
        rw [addNew, eraseDups_concat]
        by_cases hmem : name ∈ start
        · simp [hmem]
        · simp [hmem]
      rw [List.foldl_cons, hname, ih, List.append_assoc]
      rfl

@[simp]
theorem foldl_addNew_nil (names : List String) :
  names.foldl addNew [] = names.eraseDups
  := foldl_addNew_eraseDups [] names

/-- Names that are all there are not added. -/
theorem foldl_addNew_of_forall_mem {names start : List String} (h : ∀ name ∈ names, name ∈ start) :
  names.foldl addNew start = start
  := by
  induction names with
  | nil => rfl
  | cons name names ih =>
      rw [List.forall_mem_cons] at h
      have hname : addNew start name = start := by
        rw [addNew, if_pos (List.contains_iff_mem.mpr h.1)]
      rw [List.foldl_cons, hname, ih h.2]

section

variable {α κ : Type} [BEq κ] [LawfulBEq κ] {key : α → κ} {namesOf : α → List String}

/-- An element that is met a second time adds no names. -/
theorem foldl_addNew_distinctAfter {items : List α}
    (hkey : ∀ first ∈ items, ∀ second ∈ items, key first = key second →
      namesOf first = namesOf second)
    {seen : List κ} {start : List String}
    (hseen : ∀ item ∈ items, key item ∈ seen → ∀ name ∈ namesOf item, name ∈ start) :
  ((distinctAfter key seen items).flatMap namesOf).foldl addNew start
    = (items.flatMap namesOf).foldl addNew start
  := by
  induction items generalizing seen start with
  | nil => rfl
  | cons first rest ih =>
      have hkey' : ∀ first ∈ rest, ∀ second ∈ rest, key first = key second →
          namesOf first = namesOf second := by
        intro first hfirst second hsecond
        apply hkey first (List.mem_cons_of_mem _ hfirst) second (List.mem_cons_of_mem _ hsecond)
      rw [distinctAfter, List.flatMap_cons, List.foldl_append]
      split
      · next hold =>
        rw [List.contains_iff_mem] at hold
        rw [foldl_addNew_of_forall_mem (hseen first List.mem_cons_self hold)]
        apply ih hkey'
        intro item hitem
        apply hseen item (List.mem_cons_of_mem _ hitem)
      · rw [List.flatMap_cons, List.foldl_append]
        apply ih hkey'
        intro item hitem hmem name hname
        rw [mem_foldl_addNew]
        rcases List.mem_cons.mp hmem with heq | hold
        · rw [hkey item (List.mem_cons_of_mem _ hitem) first List.mem_cons_self heq] at hname
          apply Or.inr hname
        · apply Or.inl (hseen item (List.mem_cons_of_mem _ hitem) hold name hname)

end

variable {readme : Readme} {link : Node}

/-! ### What links give -/

/-- The names that a link gives to one side of an inventory, if its text is accepted. -/
def namesFrom (accepts : String → Bool) (dataSources : Bool) (link : Node) : List String :=
  if accepts link.plainText && leadsToDataSource link.kind == dataSources then
    linkNames link.plainText
  else []

theorem side_addLink (readme : Readme) (inventory : Inventory) (dataSources : Bool) (link : Node) :
  (readme.addLink inventory link).side dataSources
    = (namesFrom readme.namesResource dataSources link).foldl addNew (inventory.side dataSources)
  := by
  rw [addLink, namesFrom]
  cases readme.namesResource link.plainText with
  | false => rfl
  | true =>
      cases leadsToDataSource link.kind with
      | true =>
          cases dataSources with
          | true => rfl
          | false => rfl
      | false =>
          cases dataSources with
          | true => rfl
          | false => rfl

theorem side_foldl_addLink (readme : Readme) (inventory : Inventory) (dataSources : Bool)
    (links : List Node) :
  (links.foldl readme.addLink inventory).side dataSources
    = (links.flatMap (namesFrom readme.namesResource dataSources)).foldl addNew
      (inventory.side dataSources)
  := by
  induction links generalizing inventory with
  | nil => rfl
  | cons link links ih =>
      rw [List.foldl_cons, ih, side_addLink, List.flatMap_cons, List.foldl_append]

/-- What is gathered is what the links in scope give, each name once. -/
theorem side_gathered (readme : Readme) (dataSources : Bool) :
  readme.gathered.side dataSources
    = (readme.scopedLinks.flatMap fun found =>
      namesFrom readme.namesResource dataSources found.2).eraseDups
  := by
  have hnil : (Inventory.mk [] []).side dataSources = [] := by
    cases dataSources with
    | true => rfl
    | false => rfl
  rw [gathered, side_foldl_addLink, links_eq, List.flatMap_map, hnil, ← foldl_addNew_nil]
  symm
  apply foldl_addNew_distinctAfter
  · intro first hfirst second hsecond h
    rw [eq_of_mem_linksMet hfirst hsecond h]
  · intro found _ hseen
    cases hseen

/-- A link that gives a name gives its base. -/
theorem before_mem_namesFrom {accepts : String → Bool} {dataSources : Bool} {name : String}
    (h : name ∈ namesFrom accepts dataSources link) :
  before '.' name ∈ namesFrom accepts dataSources link
  := by
  rw [namesFrom] at h ⊢
  split at h
  · next haccepts =>
    rw [if_pos haccepts, linkNames]
    rcases List.mem_cons.mp h with rfl | hbase
    · apply List.mem_cons_of_mem _ List.mem_cons_self
    · rw [List.mem_singleton.mp hbase, before_before]
      apply List.mem_cons_of_mem _ List.mem_cons_self
  · cases h

/-! ### Trees -/

/-- The README of a tree, with the beginnings of the names of resources as they are given. -/
def ofTree (source : String) (root : Node) (format : Format) (given : List String) : Readme :=
  let detection := match format with
    | .auto => some (detect root)
    | .fixed _ => none
  ⟨source, root, (given.filter (!·.isEmpty)).map lower, Section.ofRoot root, detection,
    (detection.map (·.layout)).getD format.layout, rfl⟩

/-- Whether a link text begins, case ignored, with one of the given beginnings that is not empty. -/
def qualifies (given : List String) (text : String) : Bool :=
  given.any fun lead => !lead.isEmpty && startsWith (lower lead) (lower text)

theorem namesResource_ofTree (source : String) (root : Node) (format : Format)
    (given : List String) :
  (ofTree source root format given).namesResource = qualifies given
  := by
  funext text
  simp only [namesResource, ofTree, qualifies, List.any_map, List.any_filter, Function.comp_def]

/-- The resources and data sources of the README of a tree. The links in scope are listed once each,
and in the order of the document unless a heading is below a link, which is not so in the tree of
any text. The names and bases that the qualifying links give are kept once, in the order of their
first occurrences, the data sources apart from the resources, and it is an error if and only if no
link in scope qualifies. Hence no name is there twice, and the base of each name is there. -/
theorem inventory_collects_links_once (source : String) (root : Node) (format : Format)
    (given : List String) :
  let readme := ofTree source root format given
  let names (dataSources : Bool) := (readme.scopedLinks.flatMap fun found =>
    namesFrom (qualifies given) dataSources found.2).eraseDups
  (∀ address link, (address, link) ∈ readme.scopedLinks ↔ readme.InScopeAt address link)
    ∧ (readme.scopedLinks.map Prod.fst).Nodup
    ∧ (root.LinksHeadless → (readme.scopedLinks.map Prod.fst).Pairwise Address.Precedes)
    ∧ (∀ text, read text format given = ofTree text (parse text) format given
      ∧ (parse text).LinksHeadless)
    ∧ ((∃ address link, readme.InScopeAt address link ∧ qualifies given link.plainText = true) →
      readme.inventory = .ok ⟨names false, names true⟩)
    ∧ (readme.inventory = .error .noResources
      ↔ ¬ ∃ address link, readme.InScopeAt address link ∧ qualifies given link.plainText = true)
    ∧ ∀ dataSources, (names dataSources).Nodup
      ∧ ∀ name ∈ names dataSources, before '.' name ∈ names dataSources
  := by
  intro readme names
  have hresource : readme.namesResource = qualifies given := namesResource_ofTree ..
  have hside : ∀ dataSources, readme.gathered.side dataSources = names dataSources := by
    intro dataSources
    rw [side_gathered, hresource]
  have hlink : (∃ link, readme.IsResourceLink link)
      ↔ ∃ address link, readme.InScopeAt address link ∧ qualifies given link.plainText = true := by
    simp only [IsResourceLink, inScope_iff, hresource]
    constructor
    · rintro ⟨link, ⟨address, hscope⟩, hqualifies⟩
      use address, link
    · rintro ⟨address, link, hscope, hqualifies⟩
      use link, ⟨address, hscope⟩
  rw [← hlink]
  refine ⟨fun _ _ => mem_scopedLinks_iff, nodup_map_distinctBy _, readme.scopedLinks_sorted,
    fun text => ⟨rfl, parse_linksHeadless text⟩, ?_, ?_, ?_⟩
  · intro h
    rw [inventory_of_resourceLink h, ← hside, ← hside]
    rfl
  · constructor
    · intro herror h
      rw [inventory_of_resourceLink h] at herror
      cases herror
    · apply inventory_of_no_resourceLink
  · intro dataSources
    use nodup_eraseDups _
    intro name hname
    obtain ⟨found, hfound, hname⟩ := List.mem_flatMap.mp (List.mem_eraseDups.mp hname)
    apply List.mem_eraseDups.mpr
    apply List.mem_flatMap.mpr
    use found, hfound, before_mem_namesFrom hname

/-- A tree in which a section for resources lies inside another one, between two of its links. -/
def nestedTree : Node :=
  let heading : Node := .mk (.heading 2) [.leaf (.text "Resources")]
  let link (destination text : String) : Node :=
    .mk .paragraph [.mk (.link destination) [.leaf (.text text)]]
  .mk .root [heading, link "/resources/vpc" "aws_vpc.main]",
    .mk .blockQuote [heading, link "/data-sources/ami" "AWS_ami.latest"],
    link "/resources/eip" "aws_eip", link "/resources/vpc" "aws_vpc.other"]

theorem nestedTree_linksHeadless :
  nestedTree.LinksHeadless
  := by
  simp [nestedTree, Node.LinksHeadless, Node.Headless, Node.every_mk_iff, Node.leaf, Node.kind,
    isLink, Kind.isHeading, Kind.headingLevel?]

theorem inventory_collects_links_once_nested :
  let readme := ofTree "" nestedTree .auto ["", "aws_"]
  nestedTree.LinksHeadless
    ∧ (readme.scopedLinks.map Prod.fst).Pairwise Address.Precedes
    ∧ (∃ address link, readme.InScopeAt address link
      ∧ qualifies ["", "aws_"] link.plainText = true)
    ∧ readme.inventory = .ok
      ⟨["aws_vpc.main", "aws_vpc", "aws_eip", "aws_vpc.other"], ["AWS_ami.latest", "AWS_ami"]⟩
  := by
  intro readme
  obtain ⟨-, -, hsorted, -, -, herror, -⟩ :=
    inventory_collects_links_once "" nestedTree .auto ["", "aws_"]
  have hinventory : readme.inventory = .ok
      ⟨["aws_vpc.main", "aws_vpc", "aws_eip", "aws_vpc.other"], ["AWS_ami.latest", "AWS_ami"]⟩ := by
    decide +kernel
  refine ⟨nestedTree_linksHeadless, hsorted nestedTree_linksHeadless, ?_, hinventory⟩
  apply Classical.not_not.mp
  intro hnone
  cases hinventory.symm.trans (herror.mpr hnone)

end Readme

end ReadmeAudit