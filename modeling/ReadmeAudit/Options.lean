import ReadmeAudit.Failure
import ReadmeAudit.Readme.Layout
import ReadmeAudit.Setting
import ReadmeAudit.Terraform.Module

/-!
# Options

The `Options` of an audit say what is audited and how. They are set one by one from settings, each
by its name, and `Options.apply` sets several in order, leaving out those for which nothing is
given.
-/

namespace ReadmeAudit

open Files Terraform

/-- A check of an audit. -/
inductive CheckKind where
  /-- The check of the sections. -/
  | sections
  /-- The check of the files. -/
  | files
  /-- The check of the addresses. -/
  | urls
  /-- The check of the resources and data sources. -/
  | resources
  /-- The check of the input variables. -/
  | inputs
  /-- The check of the outputs. -/
  | outputs
deriving Repr, DecidableEq

namespace CheckKind

/-- The checks in the order in which they report. -/
def all : List CheckKind := [sections, files, urls, resources, inputs, outputs]

/-- The name of a check. -/
def name : CheckKind → String
  | sections => "sections"
  | files => "files"
  | urls => "urls"
  | resources => "resources"
  | inputs => "variables"
  | outputs => "outputs"

/-- The name of the option that leaves a check out. -/
def optionName (kind : CheckKind) : String :=
  "skip_" ++ kind.name

end CheckKind

/-- Which checks are left out. -/
structure Skips where
  /-- Whether the check of the sections is. -/
  sections : Bool := false
  /-- Whether the check of the files is. -/
  files : Bool := false
  /-- Whether the check of the addresses is. -/
  urls : Bool := false
  /-- Whether the check of the resources and data sources is. -/
  resources : Bool := false
  /-- Whether the check of the input variables is. -/
  inputs : Bool := false
  /-- Whether the check of the outputs is. -/
  outputs : Bool := false
deriving Repr, DecidableEq

namespace Skips

/-- Whether a check is left out. -/
def get (skips : Skips) : CheckKind → Bool
  | .sections => skips.sections
  | .files => skips.files
  | .urls => skips.urls
  | .resources => skips.resources
  | .inputs => skips.inputs
  | .outputs => skips.outputs

/-- The choice with a check left out or not. -/
def set (skips : Skips) (kind : CheckKind) (value : Bool) : Skips :=
  match kind with
  | .sections => { skips with sections := value }
  | .files => { skips with files := value }
  | .urls => { skips with urls := value }
  | .resources => { skips with resources := value }
  | .inputs => { skips with inputs := value }
  | .outputs => { skips with outputs := value }

end Skips

/-- The options of an audit. -/
structure Options where
  /-- The README, if it is given. -/
  readme : Option Path := none
  /-- The module, if it is given. -/
  module : Option Path := none
  /-- The layout that is asked for. -/
  format : Format := .auto
  /-- The beginnings of the names of resources. -/
  prefixes : List String := []
  /-- The additional sections. -/
  sections : List String := []
  /-- The additional files. -/
  files : List String := []
  /-- Which files declare resources. -/
  scope : Scope := .module
  /-- Whether all events are shown. -/
  verbose : Bool := false
  /-- Which checks are left out. -/
  skips : Skips := {}
deriving Repr, DecidableEq

namespace Options

/-! ### Coercions -/

/-- The path that a setting denotes. -/
def toPath : Setting → Except Failure Path
  | .text text => .ok (.ofText text)
  | _ => .error .notAPath

/-- The format that a setting names. -/
def toFormat (value : Setting) : Except Failure Format :=
  match value.asText with
  | .error _ => .error (.options .unwritableFormat)
  | .ok name =>
    match Format.ofName? name with
    | some format => .ok format
    | none => .error (.options (.unknownFormat name))

/-- The scope that a setting names. A setting that has no text is no error of the options here,
because the wording of the error would need the text. -/
def toScope (value : Setting) : Except Failure Scope :=
  match value.asText with
  | .error error => .error (.number error)
  | .ok name =>
    match Scope.ofName? name with
    | some scope => .ok scope
    | none => .error (.options (.unknownScope name))

/-- The texts of settings. -/
def texts : List Setting → Except Text.NumberError (List String)
  | [] => .ok []
  | item :: items => do return (← item.asText) :: (← texts items)

/-- The texts of a list that is given for an option. -/
def toList (name : String) : Setting → Except Failure (List String)
  | .list items => (texts items).mapError .number
  | _ => .error (.options (.listNeeded name))

/-- The truth value that is given for an option. -/
def toTruth (name : String) : Setting → Except Failure Bool
  | .truth value => .ok value
  | _ => .error (.options (.truthNeeded name))

/-! ### Setting options -/

/-- The options with one of them set. -/
def set (options : Options) (name : String) (value : Setting) : Except Failure Options :=
  match name with
  | "readme_path" => (toPath value).map fun path => { options with readme := some path }
  | "module_path" => (toPath value).map fun path => { options with module := some path }
  | "format" => (toFormat value).map fun format => { options with format := format }
  | "scan_mode" => (toScope value).map fun scope => { options with scope := scope }
  | "provider_prefixes" =>
    (toList name value).map fun texts => { options with prefixes := texts }
  | "additional_sections" =>
    (toList name value).map fun texts => { options with sections := texts }
  | "additional_files" =>
    (toList name value).map fun texts => { options with files := texts }
  | "verbose" => (toTruth name value).map fun truth => { options with verbose := truth }
  | _ =>
    match CheckKind.all.find? fun kind => kind.optionName == name with
    | some kind =>
      (toTruth name value).map fun truth => { options with skips := options.skips.set kind truth }
    | none => .error (.options (.unknownOption name))

/-- The options with several of them set in order, up to the first that fails, and that failure. -/
def apply : Options → List (String × Setting) → Options × Option Failure
  | options, [] => (options, none)
  | options, (name, value) :: rest =>
    if value.isNull then apply options rest
    else
      match options.set name value with
      | .ok changed => apply changed rest
      | .error failure => (options, some failure)

/-- The options with several of them set in order. -/
def overlay (options : Options) (settings : List (String × Setting)) : Except Failure Options :=
  match options.apply settings with
  | (changed, none) => .ok changed
  | (_, some failure) => .error failure

/-- The options that settings give. -/
def ofSettings (settings : List (String × Setting)) : Except Failure Options :=
  overlay {} settings

end Options

end ReadmeAudit
