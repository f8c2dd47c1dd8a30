import ReadmeAudit.Proofs.Item.Report
import ReadmeAudit.Proofs.Readme.Documentation
import ReadmeAudit.Proofs.Terraform.Obstacle

/-!
# What blocks declare

A block for a resource or a data source has two labels, its type and its name, and `Declares` says
which of these the blocks of some files have. The scan of the files lists each block twice, by its
type alone and by its type with its name. The comparison with the README does not: the bare type is
superseded by the qualified name, so that every block that is not documented is reported once, and
under its qualified name.
-/

namespace ReadmeAudit.Terraform

open Text Files Hcl

/-! ### Labels -/

/-- A value has a label with something under it: it is an object with such a field, and the label is
the name of the field without quotation marks and blanks around it. Marks of the format and empty
names do not count. -/
def HasLabel (value : Value) (label : String) (under : Value) : Prop :=
  ∃ fields name, value = .object fields ∧ (name, under) ∈ fields ∧ isLabel name = true
    ∧ cleanLabel name = label

variable {value under : Value} {label : String}

theorem mem_labelled_iff :
  (label, under) ∈ labelled value ↔ HasLabel value label under
  := by
  unfold labelled
  split
  · next fields =>
    simp only [List.mem_map, List.mem_filter, Prod.exists, Prod.mk.injEq]
    constructor
    · rintro ⟨name, inner, ⟨hmem, hlabel⟩, hclean, rfl⟩
      use fields, name
    · rintro ⟨others, name, hfields, hmem, hlabel, hclean⟩
      obtain rfl := Value.object.inj hfields
      use name, under
  · next hobject =>
    apply iff_of_false List.not_mem_nil
    rintro ⟨fields, name, rfl, -⟩
    apply hobject fields rfl

theorem mem_labels_iff :
  label ∈ labels value ↔ ∃ under, HasLabel value label under
  := by
  simp only [labels, List.mem_map, Prod.exists, mem_labelled_iff]
  constructor
  · rintro ⟨label, under, hlabel, rfl⟩
    use under
  · rintro ⟨under, hlabel⟩
    use label, under

theorem HasLabel.isTrimmed (h : HasLabel value label under) :
  IsTrimmed label
  := by
  obtain ⟨fields, name, -, -, hlabel, rfl⟩ := h
  constructor
  · apply strip_strip _
  · intro hempty
    rw [isLabel, hempty] at hlabel
    simp at hlabel

/-! ### Declarations -/

/-- The type of the blocks that declare data sources or resources. -/
def blockType (dataSources : Bool) : String :=
  if dataSources then "data" else "resource"

/-- The type of data sources or resources in the wording of problems. -/
def itemType (dataSources : Bool) : String :=
  if dataSources then "Data Sources" else "Resources"

/-- One of some files has a block for data sources or resources with a type and a name. -/
def Declares (files : FileSystem) (paths : List Path) (dataSources : Bool) (type name : String) :
    Prop :=
  ∃ path ∈ paths, ∃ held, Holds files path (blockType dataSources) held
    ∧ ∃ block ∈ held, ∃ body rest, HasLabel block type body ∧ HasLabel body name rest

/-- The qualified name of a block. -/
def qualifiedName (type name : String) : String :=
  type ++ "." ++ name

variable {files : FileSystem} {paths : List Path} {dataSources : Bool} {found : Inventory}
  {type name : String}

theorem Declares.isTrimmed (h : Declares files paths dataSources type name) :
  IsTrimmed type ∧ IsTrimmed name
  := by
  obtain ⟨path, -, held, -, block, -, body, rest, htype, hname⟩ := h
  apply And.intro htype.isTrimmed hname.isTrimmed

theorem mem_definitionNames_iff {block : Value} {entry : String} :
  entry ∈ definitionNames block
    ↔ ∃ type name body rest, HasLabel block type body ∧ HasLabel body name rest
      ∧ (entry = type ∨ entry = qualifiedName type name)
  := by
  simp only [definitionNames, List.mem_flatMap, Prod.exists, mem_labelled_iff, mem_labels_iff,
    List.mem_cons, List.not_mem_nil, or_false, qualifiedName]
  constructor
  · rintro ⟨type, body, htype, name, ⟨rest, hname⟩, hentry⟩
    use type, name, body, rest
  · rintro ⟨type, name, body, rest, htype, hname, hentry⟩
    use type, body, htype, name, ⟨rest, hname⟩

theorem lookup_of_mem_blocks {fields : Fields} {held : List Value} {block : Value}
    (h : blocks fields type = .ok held) (hblock : block ∈ held) :
  fields.lookup type = some (.tuple held)
  := by
  rw [blocks] at h
  split at h
  · obtain rfl := Except.ok.inj h
    cases hblock
  · next hlookup =>
    obtain rfl := Except.ok.inj h
    apply hlookup
  · obtain rfl := Except.ok.inj h
    cases hblock
  · obtain rfl := Except.ok.inj h
    cases hblock
  · cases h

/-- A file that holds a block lists it. -/
theorem Holds.exists_of_mem {path : Path} {held : List Value} {block : Value}
    (h : Holds files path type held) (hblock : block ∈ held) :
  ∃ fields, load files path = .ok (some fields) ∧ fields.lookup type = some (.tuple held)
  := by
  induction h with
  | absent => cases hblock
  | without => cases hblock
  | listed hload hlookup => apply Exists.intro _ ⟨hload, hlookup⟩

/-- The blocks that are gone through in a file are those that it holds. -/
theorem exists_mem_blocks_iff {path : Path} {fields : Fields} {items : List Value}
    (hload : load files path = .ok (some fields)) (h : blocks fields type = .ok items)
    {P : Value → Prop} :
  (∃ block ∈ items, P block) ↔ ∃ held, Holds files path type held ∧ ∃ block ∈ held, P block
  := by
  constructor
  · rintro ⟨block, hblock, hP⟩
    use items, .listed hload (lookup_of_mem_blocks h hblock), block, hblock
  · rintro ⟨held, hheld, block, hblock, hP⟩
    obtain ⟨others, hload', hlookup⟩ := hheld.exists_of_mem hblock
    rw [hload] at hload'
    obtain rfl := Option.some.inj (Except.ok.inj hload')
    rw [blocks, hlookup] at h
    obtain rfl := Except.ok.inj h
    use block, hblock

theorem mem_side_scanFile {path : Path} (h : scanFile files path = .ok found) {entry : String} :
  entry ∈ found.side dataSources
    ↔ ∃ held, Holds files path (blockType dataSources) held
      ∧ ∃ block ∈ held, entry ∈ definitionNames block
  := by
  obtain ⟨loaded, hload, h⟩ := exists_of_bind_eq_ok h
  cases loaded with
  | none =>
      obtain rfl := Except.ok.inj h
      have hnil : (Inventory.mk [] []).side dataSources = [] := by
        cases dataSources <;> rfl
      rw [hnil]
      apply iff_of_false List.not_mem_nil
      rintro ⟨held, hheld, block, hblock, -⟩
      obtain ⟨fields, hload', -⟩ := hheld.exists_of_mem hblock
      rw [hload] at hload'
      cases hload'
  | some fields =>
      obtain ⟨resources, hresources, h⟩ := exists_of_bind_eq_ok h
      obtain ⟨data, hdata, h⟩ := exists_of_bind_eq_ok h
      obtain rfl := Except.ok.inj h
      cases dataSources with
      | true =>
          rw [Inventory.side, List.mem_flatMap]
          apply exists_mem_blocks_iff hload hdata
      | false =>
          rw [Inventory.side, List.mem_flatMap]
          apply exists_mem_blocks_iff hload hresources

/-- A scan lists the blocks by their types and by their qualified names. -/
theorem mem_side_scanFiles_iff (h : scanFiles files paths = .ok found) {entry : String} :
  entry ∈ found.side dataSources
    ↔ ∃ type name, Declares files paths dataSources type name
      ∧ (entry = type ∨ entry = qualifiedName type name)
  := by
  have hmem : entry ∈ found.side dataSources
      ↔ ∃ path ∈ paths, ∃ held, Holds files path (blockType dataSources) held
        ∧ ∃ block ∈ held, entry ∈ definitionNames block := by
    induction paths generalizing found with
    | nil =>
        obtain rfl := Except.ok.inj h
        cases dataSources <;> simp [Inventory.side]
    | cons path paths ih =>
        obtain ⟨first, hfirst, h⟩ := exists_of_bind_eq_ok h
        obtain ⟨rest, hrest, h⟩ := exists_of_bind_eq_ok h
        obtain rfl := Except.ok.inj h
        have hjoin : (join first rest).side dataSources
            = first.side dataSources ++ rest.side dataSources := by
          cases dataSources <;> rfl
        rw [hjoin, List.mem_append, ih hrest, mem_side_scanFile hfirst, List.exists_mem_cons_iff]
  rw [hmem]
  simp only [mem_definitionNames_iff]
  constructor
  · rintro ⟨path, hpath, held, hheld, block, hblock, type, name, body, rest, htype, hname, hentry⟩
    use type, name, ⟨path, hpath, held, hheld, block, hblock, body, rest, htype, hname⟩
  · rintro ⟨type, name, ⟨path, hpath, held, hheld, block, hblock, body, rest, htype, hname⟩, hentry⟩
    use path, hpath, held, hheld, block, hblock, type, name, body, rest

/-! ### Qualified names -/

/-- A type is plain if it is ASCII and has no points, so that it can be told from what follows it
after a point. -/
structure IsPlainType (type : String) : Prop where
  /-- It is ASCII. -/
  isAscii : IsAscii type
  /-- It has no points. -/
  point_notMem : '.' ∉ type.toList

theorem point_mem_qualifiedName (type name : String) :
  '.' ∈ (qualifiedName type name).toList
  := by
  simp [qualifiedName]

theorem keyOf_qualifiedName (htype : IsTrimmed type) (hname : IsTrimmed name) :
  keyOf (qualifiedName type name) = lower (qualifiedName type name)
  := by
  rw [keyOf, qualifiedName, (htype.append hname ".").strip_eq]

theorem IsPlainType.keyBase_qualifiedName (h : IsPlainType type) (htype : IsTrimmed type)
    (name : String) :
  keyBase (lower (qualifiedName type name)) = lower type
  := by
  rw [keyBase, qualifiedName, h.isAscii.before_point_lower h.point_notMem,
    h.isAscii.strip_lower htype]

theorem IsPlainType.baseOf_qualifiedName (h : IsPlainType type) (htype : IsTrimmed type)
    (hname : IsTrimmed name) :
  baseOf (qualifiedName type name) = lower type
  := by
  have hkey := keyOf_qualifiedName htype hname
  rw [keyOf] at hkey
  rw [baseOf, hkey]
  apply h.keyBase_qualifiedName htype name

theorem IsPlainType.baseOf_eq (h : IsPlainType type) (htype : IsTrimmed type) :
  baseOf type = lower type
  := by
  have hpoint : '.' ∉ (lower type).toList := by
    rw [point_mem_lower_iff]
    apply h.point_notMem
  rw [baseOf, htype.strip_eq, before_point_eq_self hpoint, h.isAscii.strip_lower htype]

/-! ### Reports -/

/-- Spellings are those of the blocks that are declared and not documented: in strictly increasing
order of the keys, one for each qualified name in lower case whose type is not the base of a
documented name. Each is a qualified name, and no bare type is among them. -/
structure ReportsBlocks (declares : String → String → Prop) (documented spellings : List String) :
    Prop where
  /-- The keys are in strictly increasing order. -/
  sorted : (spellings.map lower).Pairwise (· < ·)
  /-- The keys are those of the qualified names whose types are not documented. -/
  mem_iff : ∀ key, key ∈ spellings.map lower
    ↔ ∃ type name, declares type name ∧ key = lower (qualifiedName type name)
      ∧ lower type ∉ baseSet documented
  /-- Each is spelled like a block that is declared. -/
  exists_of_mem : ∀ spelling ∈ spellings,
    ∃ type name, declares type name ∧ spelling = qualifiedName type name
  /-- No type alone is reported. -/
  lower_notMem : ∀ type name, declares type name → lower type ∉ spellings.map lower

section

variable {declares : String → String → Prop} {side documented spellings : List String}

/-- A list of names has the blocks that are declared, by their types and by their qualified
names. -/
structure NamedTwice (declares : String → String → Prop) (side : List String) : Prop where
  /-- The names are the types and the qualified names. -/
  mem_iff : ∀ entry, entry ∈ side
    ↔ ∃ type name, declares type name ∧ (entry = type ∨ entry = qualifiedName type name)
  /-- Types and names are trimmed. -/
  isTrimmed : ∀ type name, declares type name → IsTrimmed type ∧ IsTrimmed name
  /-- Types are plain. -/
  isPlainType : ∀ type name, declares type name → IsPlainType type

/-- A bare type is superseded by the name of its own block. -/
theorem NamedTwice.not_survives (h : NamedTwice declares side)
    (hdeclares : declares type name) :
  ¬ ('.' ∈ (keyOf type).toList
    ∨ ∀ entry ∈ side, '.' ∈ entry.toList → baseOf entry ≠ keyBase (keyOf type))
  := by
  have hplain := h.isPlainType type name hdeclares
  obtain ⟨htype, hname⟩ := h.isTrimmed type name hdeclares
  rintro (hpoint | hbase)
  · apply hplain.point_notMem (point_mem_keyOf_iff.mp hpoint)
  · have hentry := (h.mem_iff _).mpr ⟨type, name, hdeclares, Or.inr rfl⟩
    apply hbase _ hentry (point_mem_qualifiedName type name)
    rw [hplain.baseOf_qualifiedName htype hname]
    apply (hplain.baseOf_eq htype).symm

/-- The keys that are reported are those of qualified names. -/
theorem NamedTwice.mem_map_lower_iff (h : NamedTwice declares side)
    (hunmatched : Unmatched side documented spellings) {key : String} :
  key ∈ spellings.map lower
    ↔ ∃ type name, declares type name ∧ key = lower (qualifiedName type name)
      ∧ lower type ∉ baseSet documented
  := by
  rw [hunmatched.mem_iff]
  constructor
  · rintro ⟨⟨entry, hentry, -, rfl⟩, hbase, hsurvives⟩
    obtain ⟨type, name, hdeclares, rfl | rfl⟩ := (h.mem_iff entry).mp hentry
    · apply absurd hsurvives (h.not_survives hdeclares)
    · obtain ⟨htype, hname⟩ := h.isTrimmed type name hdeclares
      rw [keyOf_qualifiedName htype hname] at hbase ⊢
      rw [(h.isPlainType type name hdeclares).keyBase_qualifiedName htype] at hbase
      use type, name, hdeclares, rfl
  · rintro ⟨type, name, hdeclares, rfl, hbase⟩
    obtain ⟨htype, hname⟩ := h.isTrimmed type name hdeclares
    have hentry := (h.mem_iff _).mpr ⟨type, name, hdeclares, Or.inr rfl⟩
    have hpoint := point_mem_qualifiedName type name
    rw [(h.isPlainType type name hdeclares).keyBase_qualifiedName htype,
      ← keyOf_qualifiedName htype hname]
    use mem_keySet hentry (isBlankText_of_point_mem hpoint), hbase
    apply Or.inl (point_mem_keyOf_iff.mpr hpoint)

theorem NamedTwice.reportsBlocks (h : NamedTwice declares side)
    (hunmatched : Unmatched side documented spellings) :
  ReportsBlocks declares documented spellings
  := by
  have hbare : ∀ type name, declares type name → lower type ∉ spellings.map lower := by
    intro type name hdeclares htype
    obtain ⟨other, name', -, hkey, -⟩ := (h.mem_map_lower_iff hunmatched).mp htype
    apply (h.isPlainType type name hdeclares).point_notMem
    rw [← point_mem_lower_iff, hkey, point_mem_lower_iff]
    apply point_mem_qualifiedName other name'
  constructor
  · apply hunmatched.sorted
  · intro key
    apply h.mem_map_lower_iff hunmatched
  · intro spelling hspelling
    obtain ⟨entry, hentry, -, rfl, -⟩ := hunmatched.exists_of_mem hspelling
    obtain ⟨type, name, hdeclares, rfl | rfl⟩ := (h.mem_iff entry).mp hentry
    · obtain ⟨htype, -⟩ := h.isTrimmed entry name hdeclares
      rw [htype.strip_eq] at hspelling
      apply absurd (List.mem_map_of_mem hspelling) (hbare entry name hdeclares)
    · obtain ⟨htype, hname⟩ := h.isTrimmed type name hdeclares
      use type, name, hdeclares
      rw [qualifiedName, (htype.append hname ".").strip_eq]
  · apply hbare

end

theorem namedTwice_of_scanFiles (h : scanFiles files paths = .ok found)
    (hplain : ∀ type name, Declares files paths dataSources type name → IsPlainType type) :
  NamedTwice (Declares files paths dataSources) (found.side dataSources)
  := by
  constructor
  · intro entry
    apply mem_side_scanFiles_iff h
  · intro type name hdeclares
    apply hdeclares.isTrimmed
  · apply hplain

/-- If all the types of the blocks for resources in some files are ASCII and have no points, the
comparison of what the scan of the files finds with documented names reports every block that is not
documented once, under its qualified name, and no type alone. The same is true of data sources. The
scan finds something if the files are in order. -/
theorem undocumented_blocks_reported_once (files : FileSystem) (paths : List Path)
    (documented : List String) (dataSources : Bool)
    (hplain : ∀ type name, Declares files paths dataSources type name → IsPlainType type) :
  (∀ found, scanFiles files paths = .ok found →
      ∃ spellings,
        Problem.ofKind .missingInMarkdown
            (reconcile (found.side dataSources) documented (itemType dataSources))
          = spellings.map (.undocumented (itemType dataSources))
        ∧ ReportsBlocks (Declares files paths dataSources) documented spellings)
    ∧ ((∀ path ∈ paths, InOrder files path definitionTypes) →
      ∃ found, scanFiles files paths = .ok found)
  := by
  constructor
  · intro found hfound
    have htwice := namedTwice_of_scanFiles hfound hplain
    have hunmatched := Reconciliation.unmatched_exact (found.side dataSources) documented
    use (Reconciliation.unmatched (.ofNames (found.side dataSources)) (.ofNames documented)).map
      Item.spelling
    constructor
    · rw [ofKind_missingInMarkdown_reconcile, List.map_map]
      rfl
    · apply htwice.reportsBlocks hunmatched
  · apply exists_scanFiles_eq_ok

/-- A file with two blocks, whose qualified names are the same in lower case. -/
def blockFiles : FileSystem :=
  .holding "main.tf"
    "resource \"AWS_Vpc\" \"main\" \x7b\x7d\nresource \"aws_vpc\" \"Main\" \x7b\x7d"

/-- The blocks of the file. -/
def heldBlocks : List Value :=
  [("\"AWS_Vpc\"", "\"main\""), ("\"aws_vpc\"", "\"Main\"")].map fun (type, name) =>
    .object [(type, .object [(name, .object [("__is_block__", .scalar)])])]

theorem load_blockFiles :
  load blockFiles ⟨.none, ["main.tf"]⟩ = .ok (some [("resource", .tuple heldBlocks)])
  := by
  decide +kernel

theorem isPlainType_blockFiles {type name : String}
    (h : Declares blockFiles [⟨.none, ["main.tf"]⟩] false type name) :
  IsPlainType type
  := by
  obtain ⟨path, hpath, held, hheld, block, hblock, body, rest, htype, -⟩ := h
  obtain rfl := List.mem_singleton.mp hpath
  obtain ⟨fields, hload, hlookup⟩ := hheld.exists_of_mem hblock
  rw [load_blockFiles] at hload
  obtain rfl := Option.some.inj (Except.ok.inj hload)
  obtain rfl := Value.tuple.inj (Option.some.inj hlookup)
  have htypes : ∀ type ∈ heldBlocks.flatMap labels, IsAscii type ∧ '.' ∉ type.toList := by
    decide +kernel
  have hmem := List.mem_flatMap.mpr ⟨block, hblock, mem_labels_iff.mpr ⟨body, htype⟩⟩
  use (htypes type hmem).1
  apply (htypes type hmem).2

/-- What the scan of the file finds. -/
def scannedBlocks : Inventory :=
  ⟨["AWS_Vpc", "AWS_Vpc.main", "aws_vpc", "aws_vpc.Main"], []⟩

theorem undocumented_blocks_reported_once_vpc :
  (∀ type name, Declares blockFiles [⟨.none, ["main.tf"]⟩] false type name → IsPlainType type)
    ∧ scanFiles blockFiles [⟨.none, ["main.tf"]⟩] = .ok scannedBlocks
    ∧ ∃ spellings,
      Problem.ofKind .missingInMarkdown
          (reconcile (scannedBlocks.side false) ["aws_eip"] (itemType false))
        = spellings.map (.undocumented (itemType false))
      ∧ ReportsBlocks (Declares blockFiles [⟨.none, ["main.tf"]⟩] false) ["aws_eip"] spellings
  := by
  have hscan : scanFiles blockFiles [⟨.none, ["main.tf"]⟩] = .ok scannedBlocks := by
    decide +kernel
  use fun _ _ => isPlainType_blockFiles, hscan
  apply (undocumented_blocks_reported_once blockFiles [⟨.none, ["main.tf"]⟩] ["aws_eip"] false
    fun _ _ => isPlainType_blockFiles).1 scannedBlocks hscan

end ReadmeAudit.Terraform
