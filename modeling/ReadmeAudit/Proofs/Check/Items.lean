import ReadmeAudit.Check.Items
import ReadmeAudit.Proofs.Item.Reconciliation
import ReadmeAudit.Proofs.Readme.Documentation
import ReadmeAudit.Proofs.Terraform.Module

/-!
# When the checks of the items are silent

A check of the items finds no problem exactly when what the module declares and what the README
documents have the same bases, or when there is nothing to compare: nothing is declared, and no
section is there for it. Otherwise the variables and outputs that are on one side only are reported
by their bases.
-/

namespace ReadmeAudit.Check

open Text Files Terraform Hcl Markdown

variable {readme : Readme}

/-! ### Steps of the checks -/

theorem declaredOr_ends {α : Type} {declared : Audit α} {value : α}
    (h : Audit.Ends readme declared (.ok value)) :
  Audit.Ends readme (declaredOr declared) (.ok (.ok value))
  := by
  rw [declaredOr]
  apply Audit.Ends.tryCatch
  apply Audit.Ends.bind h
  apply Audit.Ends.pure

/-- An extraction error is the outcome of a determination, and does not end the check. -/
theorem declaredOr_ends_error {α : Type} {declared : Audit α} {error : ExtractionError}
    (h : Audit.Ends readme declared (.error (.extraction error))) :
  Audit.Ends readme (declaredOr declared) (.ok (.error error))
  := by
  rw [declaredOr]
  apply Audit.Ends.tryCatch_error
  · apply Audit.Ends.bind_error h
  · apply Audit.Ends.pure

/-- A failure that is no extraction error is passed on. -/
theorem declaredOr_ends_failure {α : Type} {declared : Audit α} {failure : Failure}
    (h : Audit.Ends readme declared (.error failure))
    (hother : ∀ error, failure ≠ .extraction error) :
  Audit.Ends readme (declaredOr declared) (.error failure)
  := by
  rw [declaredOr]
  apply Audit.Ends.tryCatch_error
  · apply Audit.Ends.bind_error h
  · split
    · next error => apply absurd rfl (hother error)
    · apply Audit.Ends.throw

/-- What a check comes to when what is declared has been determined or not: the problems of what is
declared, or an extraction error as the only problem, or no result. -/
def reported {α : Type} (problems : α → List Problem) :
    Except Failure α → Except Failure (List Problem)
  | .ok declared => .ok (problems declared)
  | .error (.extraction error) => .ok [.extraction error]
  | .error failure => .error failure

theorem reported_failure {α : Type} {problems : α → List Problem} {failure : Failure}
    (hother : ∀ error, failure ≠ .extraction error) :
  reported problems (.error failure) = .error failure
  := by
  rw [reported]
  apply hother

theorem eq_error_of_reported_eq_error {α : Type} {problems : α → List Problem}
    {result : Except Failure α} {failure : Failure}
    (h : reported problems result = .error failure) :
  result = .error failure
  := by
  cases result with
  | ok declared => cases h
  | error other =>
      by_cases hextraction : ∃ error, other = .extraction error
      · obtain ⟨error, rfl⟩ := hextraction
        cases h
      · rw [reported_failure (not_exists.mp hextraction)] at h
        rw [Except.error.inj h]

/-- A check that determines what is declared, and goes on with it or else reports why it cannot,
comes to what is reported. -/
theorem reported_ends
    {α : Type} {declared : Audit α} {result : Except Failure α} {problems : α → List Problem}
    {next : Except ExtractionError α → Audit (List Problem)}
    (hdeclared : Audit.Ends readme declared result)
    (hok : ∀ value, Audit.Ends readme (next (.ok value)) (.ok (problems value)))
    (herror : ∀ error, Audit.Ends readme (next (.error error)) (.ok [.extraction error])) :
  Audit.Ends readme (declaredOr declared >>= next) (reported problems result)
  := by
  cases result with
  | ok value => apply Audit.Ends.bind (declaredOr_ends hdeclared) (hok value)
  | error failure =>
      by_cases hextraction : ∃ error, failure = .extraction error
      · obtain ⟨error, rfl⟩ := hextraction
        apply Audit.Ends.bind (declaredOr_ends_error hdeclared) (herror error)
      · rw [not_exists] at hextraction
        rw [reported_failure hextraction]
        apply Audit.Ends.bind_error (declaredOr_ends_failure hdeclared hextraction)

theorem compare_ends (declared documented : List String) (itemType : String) :
  Audit.Ends readme (compare declared documented itemType)
    (.ok (reconcile declared documented itemType))
  := by
  apply Audit.Ends.bind (Audit.note_ends _)
  apply Audit.Ends.pure

theorem documentedItems_ends (names : List String) :
  Audit.Ends readme (documentedItems readme names) (.ok (readme.items names))
  := by
  apply Audit.Ends.bind (Audit.ask_ends (Session.denotedAll_answers names))
  split
  · apply Audit.Ends.bind (Audit.note_ends _)
    apply Audit.Ends.pure
  · apply Audit.Ends.pure

theorem documentedInventory_ends :
  Audit.Ends readme (documentedInventory readme) (.ok readme.inventory)
  := by
  apply Audit.Ends.bind (Audit.ask_ends Session.inventory_answers)
  split
  · apply Audit.Ends.bind (Audit.note_ends _)
    apply Audit.Ends.pure
  · apply Audit.Ends.pure

/-- The problems that two inventories show. -/
def inventoryProblems (declared documented : Inventory) : List Problem :=
  reconcile declared.resources documented.resources "Resources"
    ++ reconcile declared.dataSources documented.dataSources "Data Sources"

theorem compareInventories_ends (declared documented : Inventory) :
  Audit.Ends readme (compareInventories declared documented)
    (.ok (inventoryProblems declared documented))
  := by
  apply Audit.Ends.bind (compare_ends _ _ _)
  apply Audit.Ends.bind (compare_ends _ _ _)
  apply Audit.Ends.pure

/-! ### Variables and outputs -/

variable {module : Module} {files : FileSystem}

/-- The problems of the items of a type, as far as the declared ones are known. -/
def itemProblems (readme : Readme) (type : ItemType) (declared : List String) : List Problem :=
  if !type.sections.any readme.hasSection && declared.isEmpty then []
  else reconcile declared (readme.items type.sections) type.name

theorem items_ends_reported {type : ItemType} {result : Except Failure (List String)}
    (h : Audit.Ends readme
      (Module.items files (module.itemFile (.ofText type.file)) type.blockType) result) :
  Audit.Ends readme (items readme module files type) (reported (itemProblems readme type) result)
  := by
  apply reported_ends h
  · intro declared
    rw [itemProblems]
    apply Audit.Ends.bind (Audit.ask_ends (Session.hasAnySection_answers type.sections))
    split
    · apply Audit.Ends.bind (Audit.note_ends _)
      apply Audit.Ends.pure
    · apply Audit.Ends.bind (documentedItems_ends type.sections)
      apply compare_ends
  · intro error
    apply Audit.Ends.pure

theorem items_ends {type : ItemType} {blocks : List Value}
    (h : Holds files (module.itemFile (.ofText type.file)) type.blockType blocks) :
  Audit.Ends readme (items readme module files type)
    (.ok (itemProblems readme type (blocks.flatMap labels)))
  := items_ends_reported h.items_ends

/-- The items that are documented under some names, as they are compared, have the bases of those
that the README documents under them. -/
theorem baseSet_items (readme : Readme) (names : List String) :
  baseSet (readme.items names) = baseSet (readme.documentedItems names)
  := baseSet_congr fun _ => Readme.mem_items_iff

theorem itemProblems_eq_nil_iff {type : ItemType} {declared : List String} :
  itemProblems readme type declared = []
    ↔ (¬ ∃ part, readme.IsSectionOf type.sections part) ∧ declared = []
      ∨ baseSet declared = baseSet (readme.documentedItems type.sections)
  := by
  rw [itemProblems, ← Readme.any_hasSection_iff, Bool.not_eq_true]
  have hreconcile := (Reconciliation.ofNames_represents declared
    (readme.items type.sections)).problems_eq_nil_iff type.name
  rw [baseSet_items] at hreconcile
  split
  · next hnothing =>
    rw [Bool.and_eq_true, Bool.not_eq_true', List.isEmpty_iff] at hnothing
    constructor
    · intro _
      apply Or.inl hnothing
    · intro _
      rfl
  · next hsomething =>
    rw [Bool.and_eq_true, Bool.not_eq_true', List.isEmpty_iff] at hsomething
    rw [or_iff_right hsomething]
    apply hreconcile

/-- If there are problems, they report the bases that one side has and the other has not. -/
theorem reportedBases_itemProblems {type : ItemType} {declared : List String}
    (h : itemProblems readme type declared ≠ []) :
  reportedBases .missingInMarkdown (itemProblems readme type declared)
      = baseSet declared \ baseSet (readme.documentedItems type.sections)
    ∧ reportedBases .missingInTerraform (itemProblems readme type declared)
      = baseSet (readme.documentedItems type.sections) \ baseSet declared
  := by
  have hrepresents := Reconciliation.ofNames_represents declared (readme.items type.sections)
  rw [itemProblems] at h ⊢
  split at h
  · contradiction
  · next hsomething =>
    rw [if_neg hsomething, ← baseSet_items]
    constructor
    · apply hrepresents.reportedBases_missingInMarkdown
    · apply hrepresents.reportedBases_missingInTerraform

/-- A file that declares the output `region`. -/
def regionFiles : FileSystem :=
  .holding "outputs.tf" "output \"region\" \x7b\x7d"

/-- The block of the output `region`. -/
def regionBlock : Value :=
  .object [("\"region\"", .object [("__is_block__", .scalar)])]

/-- A README that documents the output. -/
def regionReadme : Readme :=
  .read "## Output\n### Region\n" (.fixed .document) []

theorem holds_regionFiles :
  Holds regionFiles (Module.here.itemFile (.ofText "outputs.tf")) "output" [regionBlock]
  := by
  have hload : load regionFiles (Module.here.itemFile (.ofText "outputs.tf"))
      = .ok (some [("output", .tuple [regionBlock])]) := by
    decide +kernel
  apply Holds.listed hload
  rfl

/-- The check of the items of a type finds no problem exactly when no section is there for them and
none is declared, or when the declared labels have the bases of the documented items. Otherwise it
reports each declared base that is not documented, and each documented base that is not declared.
It does so at any point of an audit. -/
theorem items_silent_iff
    (readme : Readme) (module : Module) (files : FileSystem) (type : ItemType)
    (blocks : List Value)
    (hblocks : Holds files (module.itemFile (.ofText type.file)) type.blockType blocks)
    (queries : List Query) (events : List Event) (requests : List String) :
  ∃ problems after,
    (items readme module files type).outcome (.afterQueries readme queries events requests)
        = (.ok problems, after)
      ∧ (problems = []
        ↔ (¬ ∃ part, readme.IsSectionOf type.sections part) ∧ blocks.flatMap labels = []
          ∨ baseSet (blocks.flatMap labels) = baseSet (readme.documentedItems type.sections))
      ∧ (problems ≠ [] →
        reportedBases .missingInMarkdown problems
            = baseSet (blocks.flatMap labels) \ baseSet (readme.documentedItems type.sections)
          ∧ reportedBases .missingInTerraform problems
            = baseSet (readme.documentedItems type.sections) \ baseSet (blocks.flatMap labels))
  := by
  have htrace := Trace.afterQueries_faithful readme queries events requests
  obtain ⟨after, houtcome, -⟩ := items_ends hblocks _ htrace
  use itemProblems readme type (blocks.flatMap labels), after, houtcome
  constructor
  · apply itemProblems_eq_nil_iff
  · apply reportedBases_itemProblems

/-- The output that is documented in another case, under a heading in the singular, is found. -/
theorem items_silent_region :
  Holds regionFiles (Module.here.itemFile (.ofText "outputs.tf")) "output" [regionBlock]
    ∧ ∃ after,
      (items regionReadme .here regionFiles .outputs).outcome .empty = (.ok [], after)
  := by
  have hdeclared : [regionBlock].flatMap labels = ["region"] := by decide +kernel
  have hdocumented : regionReadme.items ItemType.outputs.sections = ["Region"] := by decide +kernel
  have hbases : baseSet ["region"] = baseSet ["Region"] := by
    have hbase : baseOf "region" = baseOf "Region" := by decide +kernel
    have hblank : isBlankText "region" = isBlankText "Region" := by decide +kernel
    simp [baseSet, hbase, hblank]
  obtain ⟨problems, after, houtcome, hsilent, -⟩ :=
    items_silent_iff regionReadme .here regionFiles .outputs [regionBlock] holds_regionFiles
      [] [] []
  rw [hdeclared, hbases, ← hdocumented, baseSet_items] at hsilent
  obtain rfl := hsilent.mpr (Or.inr rfl)
  use holds_regionFiles, after
  apply houtcome

/-! ### Resources and data sources -/

/-- The problems of the resources and data sources, as far as the declared ones are known. -/
def resourceProblems (readme : Readme) (declared : Inventory) : List Problem :=
  match readme.inventory with
  | .ok documented => inventoryProblems declared documented
  | .error error =>
    if !declared.resources.isEmpty || !declared.dataSources.isEmpty then
      inventoryProblems declared ⟨[], []⟩
    else if readme.hasSection "Resources" then [.extraction error]
    else []

theorem resources_ends_reported :
  Audit.Ends readme (resources readme module files)
    (reported (resourceProblems readme) (module.scan files))
  := by
  apply reported_ends Module.inventory_ends
  · intro declared
    rw [resourceProblems]
    apply Audit.Ends.bind documentedInventory_ends
    cases readme.inventory with
    | ok documented => apply compareInventories_ends
    | error error =>
        dsimp only
        split
        · apply compareInventories_ends
        · apply Audit.Ends.bind (Audit.ask_ends (Session.hasSection_answers "Resources"))
          split
          · apply Audit.Ends.pure
          · apply Audit.Ends.bind (Audit.note_ends _)
            apply Audit.Ends.pure
  · intro error
    apply Audit.Ends.pure

theorem resources_ends {declared : Inventory} (h : module.scan files = .ok declared) :
  Audit.Ends readme (resources readme module files) (.ok (resourceProblems readme declared))
  := by
  have hends := @resources_ends_reported readme module files
  rw [h] at hends
  apply hends

theorem resources_ends_error {error : ExtractionError}
    (h : module.scan files = .error (.extraction error)) :
  Audit.Ends readme (resources readme module files) (.ok [.extraction error])
  := by
  have hends := @resources_ends_reported readme module files
  rw [h] at hends
  apply hends

/-- Two inventories show no problems exactly when they have the same bases. -/
theorem inventoryProblems_eq_nil_iff (declared documented : Inventory) :
  inventoryProblems declared documented = []
    ↔ baseSet declared.resources = baseSet documented.resources
      ∧ baseSet declared.dataSources = baseSet documented.dataSources
  := by
  rw [inventoryProblems, List.append_eq_nil_iff]
  apply and_congr
  · apply (Reconciliation.ofNames_represents _ _).problems_eq_nil_iff
  · apply (Reconciliation.ofNames_represents _ _).problems_eq_nil_iff

/-- If there is a resource link or something is declared, the two sides are compared. -/
theorem resourceProblems_eq_nil_iff_of_compared {declared : Inventory}
    (h : (declared.resources ≠ [] ∨ declared.dataSources ≠ [])
      ∨ ∃ link, readme.IsResourceLink link) :
  resourceProblems readme declared = []
    ↔ baseSet declared.resources = baseSet readme.documentedResources
      ∧ baseSet declared.dataSources = baseSet readme.documentedDataSources
  := by
  rw [resourceProblems]
  by_cases hlink : ∃ link, readme.IsResourceLink link
  · have hresources : baseSet readme.documentedResources = baseSet readme.gathered.resources :=
      baseSet_congr fun _ => Readme.mem_gathered_resources_iff.symm
    have hdataSources :
        baseSet readme.documentedDataSources = baseSet readme.gathered.dataSources :=
      baseSet_congr fun _ => Readme.mem_gathered_dataSources_iff.symm
    rw [Readme.inventory_of_resourceLink hlink, hresources, hdataSources]
    apply inventoryProblems_eq_nil_iff
  · have hnone : ∀ dataSources, baseSet (readme.linkedNames dataSources)
        = baseSet ([] : List String) := by
      intro dataSources
      apply baseSet_congr
      intro name
      simp [Readme.notMem_linkedNames hlink]
    have hdeclared : (!declared.resources.isEmpty || !declared.dataSources.isEmpty) = true := by
      simpa [hlink] using h
    rw [Readme.inventory_of_no_resourceLink hlink, Readme.documentedResources,
      Readme.documentedDataSources, hnone, hnone]
    dsimp only
    rw [if_pos hdeclared]
    apply inventoryProblems_eq_nil_iff declared ⟨[], []⟩

/-- If there is neither a resource link nor anything declared, it is only a problem if there is a
section for resources. -/
theorem resourceProblems_eq_nil_iff_of_nothing {declared : Inventory}
    (hdeclared : declared.resources = [] ∧ declared.dataSources = [])
    (hlink : ¬ ∃ link, readme.IsResourceLink link) :
  resourceProblems readme declared = [] ↔ ¬ ∃ part, readme.IsResourceSection part
  := by
  have hsection : readme.hasSection "Resources" = true ↔ ∃ part, readme.IsResourceSection part :=
    Readme.hasSection_iff
  rw [resourceProblems, Readme.inventory_of_no_resourceLink hlink, hdeclared.1, hdeclared.2,
    ← hsection]
  cases readme.hasSection "Resources" with
  | true => simp
  | false => simp

theorem resourceProblems_eq_nil_iff {declared : Inventory} :
  resourceProblems readme declared = []
    ↔ ((declared.resources ≠ [] ∨ declared.dataSources ≠ [])
          ∨ ∃ link, readme.IsResourceLink link)
        ∧ baseSet declared.resources = baseSet readme.documentedResources
        ∧ baseSet declared.dataSources = baseSet readme.documentedDataSources
      ∨ (declared.resources = [] ∧ declared.dataSources = [])
        ∧ (¬ ∃ link, readme.IsResourceLink link)
        ∧ ¬ ∃ part, readme.IsResourceSection part
  := by
  by_cases hcompared : (declared.resources ≠ [] ∨ declared.dataSources ≠ [])
      ∨ ∃ link, readme.IsResourceLink link
  · have hsomething : ¬ ((declared.resources = [] ∧ declared.dataSources = [])
        ∧ (¬ ∃ link, readme.IsResourceLink link) ∧ ¬ ∃ part, readme.IsResourceSection part) := by
      rintro ⟨hdeclared, hlink, -⟩
      rcases hcompared with h | h
      · apply not_and_or.mpr h hdeclared
      · apply hlink h
    rw [resourceProblems_eq_nil_iff_of_compared hcompared, or_iff_left hsomething,
      and_iff_right hcompared]
  · obtain ⟨hdeclared, hlink⟩ := not_or.mp hcompared
    rw [← not_and_or, not_not] at hdeclared
    rw [resourceProblems_eq_nil_iff_of_nothing hdeclared hlink, and_iff_right hdeclared,
      and_iff_right hlink]
    apply (or_iff_right _).symm
    rintro ⟨h, -⟩
    apply hcompared h

/-- A file that declares the resource `aws_vpc.main`. -/
def vpcFiles : FileSystem :=
  .holding "main.tf" "resource \"aws_vpc\" \"main\" \x7b\x7d"

/-- A file that breaks off after the first word. -/
def brokenFiles : FileSystem :=
  .holding "main.tf" "resource"

/-- A README that is a single link. -/
def vpcReadme : Readme :=
  let root := .mk .root [.mk (.link "resources/vpc") [.leaf (.text "aws_vpc.main")]]
  ⟨"", root, ["aws_"], Section.ofRoot root, none, .document, rfl⟩

theorem scan_vpcFiles :
  Module.here.scan vpcFiles = .ok ⟨["aws_vpc", "aws_vpc.main"], []⟩
  := by
  decide +kernel

theorem scan_brokenFiles :
  Module.here.scan brokenFiles = .error (.extraction (.malformed "main.tf"))
  := by
  decide +kernel

/-- The check of the resources and data sources finds no problem exactly in two cases: something is
declared or linked, and the declared resources and data sources have the bases of the documented
ones; or nothing is declared or linked, and no section is there for resources. If what is declared
cannot be determined, then this is the only problem. It is so at any point of an audit. -/
theorem resources_silent_iff
    (readme : Readme) (module : Module) (files : FileSystem)
    (queries : List Query) (events : List Event) (requests : List String) :
  (∀ declared, module.scan files = .ok declared →
      ∃ problems after,
        (resources readme module files).outcome (.afterQueries readme queries events requests)
            = (.ok problems, after)
          ∧ (problems = []
            ↔ ((declared.resources ≠ [] ∨ declared.dataSources ≠ [])
                  ∨ ∃ link, readme.IsResourceLink link)
                ∧ baseSet declared.resources = baseSet readme.documentedResources
                ∧ baseSet declared.dataSources = baseSet readme.documentedDataSources
              ∨ (declared.resources = [] ∧ declared.dataSources = [])
                ∧ (¬ ∃ link, readme.IsResourceLink link)
                ∧ ¬ ∃ part, readme.IsResourceSection part))
    ∧ ∀ error, module.scan files = .error (.extraction error) →
      ∃ problem after,
        (resources readme module files).outcome (.afterQueries readme queries events requests)
            = (.ok [problem], after)
          ∧ problem.kind = .extractionFailure ∧ problem.message = error.message
  := by
  have htrace := Trace.afterQueries_faithful readme queries events requests
  constructor
  · intro declared hscan
    obtain ⟨after, houtcome, -⟩ := resources_ends hscan _ htrace
    use resourceProblems readme declared, after, houtcome
    apply resourceProblems_eq_nil_iff
  · intro error hscan
    obtain ⟨after, houtcome, -⟩ := resources_ends_error hscan _ htrace
    use .extraction error, after, houtcome, rfl
    rfl

/-- The resource that is linked is found, and the broken file is reported. -/
theorem resources_silent_vpc :
  (∃ after, (resources vpcReadme .here vpcFiles).outcome .empty = (.ok [], after))
    ∧ ∃ problem after,
      (resources vpcReadme .here brokenFiles).outcome .empty = (.ok [problem], after)
        ∧ problem.kind = .extractionFailure
        ∧ problem.message = (ExtractionError.malformed "main.tf").message
  := by
  have hresources : vpcReadme.gathered.resources = ["aws_vpc.main", "aws_vpc"] := by decide +kernel
  have hdataSources : vpcReadme.gathered.dataSources = [] := by decide +kernel
  constructor
  · obtain ⟨problems, after, houtcome, hsilent⟩ :=
      (resources_silent_iff vpcReadme .here vpcFiles [] [] []).1 _ scan_vpcFiles
    have hsame : baseSet ["aws_vpc", "aws_vpc.main"] = baseSet vpcReadme.documentedResources := by
      apply baseSet_congr
      intro name
      rw [← Readme.mem_gathered_resources_iff, hresources]
      simp [or_comm]
    have hnone : baseSet ([] : List String) = baseSet vpcReadme.documentedDataSources := by
      apply baseSet_congr
      intro name
      rw [← Readme.mem_gathered_dataSources_iff, hdataSources]
    obtain rfl := hsilent.mpr (Or.inl ⟨Or.inl (Or.inl (List.cons_ne_nil _ _)), hsame, hnone⟩)
    use after
    apply houtcome
  · apply (resources_silent_iff vpcReadme .here brokenFiles [] [] []).2 _ scan_brokenFiles

end ReadmeAudit.Check
