import ReadmeAudit.Proofs.Audit
import ReadmeAudit.Terraform.Module

/-!
# What a module is found to declare

The declared items are determined by what the module files hold. `Holds files path type blocks` says
which blocks of a type a file holds, and the items that they declare are their first labels. The
resources and data sources are those of the scan of the module. Either is determined in the same way
at any point of an audit.
-/

namespace ReadmeAudit

open Files Hcl

namespace Terraform

/-! ### Declarations -/

variable {readme : Readme} {files : FileSystem} {path : Path}

/-- What a file holds of the blocks of a type: none if the file is absent or has no entry of the
type, and otherwise those that the entry lists. -/
inductive Holds (files : FileSystem) (path : Path) (type : String) : List Value → Prop where
  /-- The file is absent. -/
  | absent (load_eq : load files path = .ok none) : Holds files path type []
  /-- The file has no entry of the type. -/
  | without {fields : Fields} (load_eq : load files path = .ok (some fields))
      (lookup_eq : fields.lookup type = none) : Holds files path type []
  /-- The entry of the type is a list. -/
  | listed {fields : Fields} {blocks : List Value} (load_eq : load files path = .ok (some fields))
      (lookup_eq : fields.lookup type = some (.tuple blocks)) : Holds files path type blocks

theorem Module.items_ends {type : String} {fields : Fields} {found : List String}
    (hload : load files path = .ok (some fields)) (hfound : declaredItems fields type = .ok found) :
  Audit.Ends readme (Module.items files path type) (.ok found)
  := by
  rw [Module.items, hload]
  apply Audit.Ends.bind
  · rw [hfound]
    apply Audit.ofExcept_ends
  · apply Audit.Ends.bind (Audit.note_ends _)
    apply Audit.Ends.pure

/-- The declared items are the first labels of the blocks that the file holds. -/
theorem Holds.items_ends {type : String} {held : List Value} (h : Holds files path type held) :
  Audit.Ends readme (Module.items files path type) (.ok (held.flatMap labels))
  := by
  cases h with
  | absent hload =>
      rw [Module.items, hload]
      apply Audit.Ends.pure
  | without hload hlookup =>
      apply Module.items_ends hload
      rw [declaredItems, blocks, hlookup]
      rfl
  | listed hload hlookup =>
      apply Module.items_ends hload
      rw [declaredItems, blocks, hlookup]
      rfl

theorem Module.inventory_ends {module : Module} :
  Audit.Ends readme (module.inventory files) (module.scan files)
  := by
  rw [Module.inventory]
  cases module.scan files with
  | ok found =>
      apply Audit.Ends.bind (Audit.ofExcept_ends _)
      apply Audit.Ends.bind (Audit.note_ends _)
      apply Audit.Ends.pure
  | error failure =>
      apply Audit.Ends.bind_error
      apply Audit.ofExcept_ends

end Terraform

/-! ### A module with one file -/

/-- The file system with one file, in its working directory. -/
def Files.FileSystem.holding (name text : String) : FileSystem :=
  ⟨.directory 4096 [(name, .file text.toUTF8)], .ofText "/"⟩

namespace Terraform.Module

/-- The module in the working directory. -/
def here : Module := ⟨.ofText ".", .module⟩

end Terraform.Module

end ReadmeAudit
