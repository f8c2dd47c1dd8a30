import Mathlib.Data.List.Nodup
import Mathlib.Tactic.Use
import ReadmeAudit.Options

/-!
# Options one by one

A `Field` is one of the options, with the type of its values. Setting an option by its name coerces
the setting to that type and changes this option alone. So several settings with distinct names,
given in any order, change each option independently of the others, and `overlay_eq_ok_iff` says to
what: the coerced setting of its name if there is one, and else what it was.
-/

namespace ReadmeAudit

open Files Terraform

namespace Skips

@[simp]
theorem get_set (skips : Skips) (kind : CheckKind) (value : Bool) :
  (skips.set kind value).get kind = value
  := by
  cases kind <;> rfl

@[simp]
theorem get_set_of_ne {kind other : CheckKind} (h : kind ≠ other) (skips : Skips) (value : Bool) :
  (skips.set kind value).get other = skips.get other
  := by
  cases kind <;> cases other <;> simp_all [get, set]

theorem ext_get {skips others : Skips} (h : ∀ kind, skips.get kind = others.get kind) :
  skips = others
  := by
  obtain ⟨⟩ := skips
  obtain ⟨⟩ := others
  congr 1
  · apply h .sections
  · apply h .files
  · apply h .urls
  · apply h .resources
  · apply h .inputs
  · apply h .outputs

end Skips

namespace Options

/-- One of the options. -/
inductive Field where
  /-- The README. -/
  | readme
  /-- The module. -/
  | module
  /-- The layout that is asked for. -/
  | format
  /-- Which files declare resources. -/
  | scope
  /-- The beginnings of the names of resources. -/
  | prefixes
  /-- The additional sections. -/
  | sections
  /-- The additional files. -/
  | files
  /-- Whether all events are shown. -/
  | verbose
  /-- Whether a check is left out. -/
  | skip (kind : CheckKind)
deriving DecidableEq

namespace Field

/-- The name of an option. -/
def name : Field → String
  | readme => "readme_path"
  | module => "module_path"
  | format => "format"
  | scope => "scan_mode"
  | prefixes => "provider_prefixes"
  | sections => "additional_sections"
  | files => "additional_files"
  | verbose => "verbose"
  | skip kind => kind.optionName

/-- The type of the values of an option. -/
abbrev Value : Field → Type
  | readme | module => Option Path
  | format => Format
  | scope => Scope
  | prefixes | sections | files => List String
  | verbose | skip _ => Bool

/-- The value of an option. -/
def get (options : Options) : (field : Field) → field.Value
  | readme => options.readme
  | module => options.module
  | format => options.format
  | scope => options.scope
  | prefixes => options.prefixes
  | sections => options.sections
  | files => options.files
  | verbose => options.verbose
  | skip kind => options.skips.get kind

/-- The options with the value of one of them changed. -/
def put (options : Options) : (field : Field) → field.Value → Options
  | readme, path => { options with readme := path }
  | module, path => { options with module := path }
  | format, asked => { options with format := asked }
  | scope, asked => { options with scope := asked }
  | prefixes, texts => { options with prefixes := texts }
  | sections, texts => { options with sections := texts }
  | files, texts => { options with files := texts }
  | verbose, truth => { options with verbose := truth }
  | skip kind, truth => { options with skips := options.skips.set kind truth }

/-- The value of an option that a setting denotes. -/
def coerce (value : Setting) : (field : Field) → Except Failure field.Value
  | readme => (toPath value).map some
  | module => (toPath value).map some
  | format => toFormat value
  | scope => toScope value
  | prefixes => toList prefixes.name value
  | sections => toList sections.name value
  | files => toList files.name value
  | verbose => toTruth verbose.name value
  | skip kind => toTruth kind.optionName value

@[simp]
theorem get_put (options : Options) (field : Field) (value : field.Value) :
  field.get (field.put options value) = value
  := by
  cases field with
  | skip kind => apply Skips.get_set
  | _ => rfl

@[simp]
theorem get_put_of_ne {field other : Field} (h : field ≠ other) (options : Options)
    (value : field.Value) :
  other.get (field.put options value) = other.get options
  := by
  cases field <;> cases other <;> simp_all [get, put]

/-- Options are determined by the values of all of them. -/
theorem ext_get {options others : Options}
    (h : ∀ field : Field, field.get options = field.get others) :
  options = others
  := by
  have hskips : options.skips = others.skips := by
    apply Skips.ext_get
    intro kind
    apply h (.skip kind)
  obtain ⟨⟩ := options
  obtain ⟨⟩ := others
  congr 1
  · apply h readme
  · apply h module
  · apply h format
  · apply h prefixes
  · apply h sections
  · apply h files
  · apply h scope
  · apply h verbose

/-- All options. -/
def all : List Field :=
  [readme, module, format, scope, prefixes, sections, files, verbose] ++ CheckKind.all.map skip

theorem mem_all (field : Field) :
  field ∈ all
  := by
  cases field with
  | skip kind => cases kind <;> decide
  | _ => decide

theorem name_injective {field other : Field} (h : field.name = other.name) :
  field = other
  := by
  have hall : ∀ field ∈ all, ∀ other ∈ all, field.name = other.name → field = other := by
    decide +kernel
  apply hall field (mem_all field) other (mem_all other) h

end Field

@[simp]
theorem set_name (options : Options) (field : Field) (value : Setting) :
  options.set field.name value = (field.coerce value).map (field.put options)
  := by
  cases field with
  | readme =>
      simp only [set, Field.name, Field.coerce]
      cases toPath value with
      | ok path => rfl
      | error failure => rfl
  | module =>
      simp only [set, Field.name, Field.coerce]
      cases toPath value with
      | ok path => rfl
      | error failure => rfl
  | skip kind => cases kind <;> rfl
  | _ => rfl

/-- There are no other options. -/
theorem set_of_forall_ne {name : String} (h : ∀ field : Field, field.name ≠ name)
    (options : Options) (value : Setting) :
  options.set name value = .error (.options (.unknownOption name))
  := by
  have hnone : CheckKind.all.find? (fun kind => kind.optionName == name) = none := by
    rw [List.find?_eq_none]
    intro kind _ hkind
    apply h (.skip kind) (eq_of_beq hkind)
  have hne : ∀ field : Field, name ≠ field.name := by
    intro field hname
    apply h field hname.symm
  rw [set, hnone]
  · apply hne .readme
  · apply hne .module
  · apply hne .format
  · apply hne .scope
  · apply hne .prefixes
  · apply hne .sections
  · apply hne .files
  · apply hne .verbose

/-! ### Several settings -/

/-- No option is given twice. -/
def DistinctNames (settings : List (String × Setting)) : Prop :=
  (settings.map Prod.fst).Nodup

instance (settings : List (String × Setting)) : Decidable (DistinctNames settings) :=
  inferInstanceAs (Decidable (settings.map Prod.fst).Nodup)

/-- All options that are given exist. -/
def Known (settings : List (String × Setting)) : Prop :=
  ∀ entry ∈ settings, entry.2.isNull = false → ∃ field : Field, field.name = entry.1

/-- The setting that is given under a name, where null counts as nothing. -/
def given? (settings : List (String × Setting)) (name : String) : Option Setting :=
  (settings.lookup name).filter (!·.isNull)

/-- The value of an option that is coerced from the setting that is given for it, or else stays as
it is. -/
def Field.chosen (field : Field) (before : field.Value) :
    Option Setting → Except Failure field.Value
  | none => .ok before
  | some value => field.coerce value

variable {options result : Options} {name : String} {value : Setting}
  {settings others : List (String × Setting)}

theorem given?_eq_none (h : name ∉ settings.map Prod.fst) :
  given? settings name = none
  := by
  have hlookup : settings.lookup name = none := by
    rw [List.lookup_eq_none_iff]
    intro entry hentry
    apply bne_iff_ne.mpr
    rintro rfl
    apply h (List.mem_map_of_mem hentry)
  rw [given?, hlookup]
  rfl

@[simp]
theorem given?_cons_of_ne {other : String} (h : other ≠ name) :
  given? ((name, value) :: settings) other = given? settings other
  := by
  rw [given?, given?, List.lookup_cons, beq_eq_false_iff_ne.mpr h]

@[simp]
theorem given?_cons_self (h : value.isNull = false) :
  given? ((name, value) :: settings) name = some value
  := by
  rw [given?, List.lookup_cons_self, Option.filter_some, h]
  rfl

theorem given?_cons_of_isNull (h : value.isNull = true) (hname : name ∉ settings.map Prod.fst)
    (other : String) :
  given? ((name, value) :: settings) other = given? settings other
  := by
  by_cases hother : other = name
  · subst hother
    rw [given?_eq_none hname, given?, List.lookup_cons_self, Option.filter_some, h]
    rfl
  · apply given?_cons_of_ne hother

theorem given?_cons_congr (entry : String × Setting)
    (h : given? settings name = given? others name) :
  given? (entry :: settings) name = given? (entry :: others) name
  := by
  by_cases hname : name = entry.1
  · subst hname
    rw [given?, given?, List.lookup_cons_self, List.lookup_cons_self]
  · rw [given?_cons_of_ne hname, given?_cons_of_ne hname, h]

/-- With distinct names, the order of the settings does not matter. -/
theorem given?_perm (h : settings.Perm others) (hnames : DistinctNames settings) (name : String) :
  given? settings name = given? others name
  := by
  induction h with
  | nil => rfl
  | cons entry _ ih => apply given?_cons_congr entry (ih hnames.of_cons)
  | swap first second rest =>
      by_cases hfirst : name = first.1
      · have hsecond : name ≠ second.1 := by
          intro hsecond
          apply (List.nodup_cons.mp hnames).1
          apply List.mem_cons.mpr (Or.inl (hsecond.symm.trans hfirst))
        rw [given?_cons_of_ne hsecond]
        apply given?_cons_congr first (given?_cons_of_ne hsecond).symm
      · rw [given?_cons_of_ne hfirst]
        apply given?_cons_congr second (given?_cons_of_ne hfirst)
  | trans h _ ih ih' => rw [ih hnames, ih' ((h.map Prod.fst).nodup hnames)]

/-! ### Options that are set in order -/

theorem overlay_cons (options : Options) (name : String) (value : Setting)
    (settings : List (String × Setting)) :
  options.overlay ((name, value) :: settings)
    = if value.isNull then options.overlay settings
      else (options.set name value).bind (overlay · settings)
  := by
  rw [overlay, apply]
  cases value.isNull with
  | true => rfl
  | false =>
      cases options.set name value with
      | ok changed => rfl
      | error failure => rfl

theorem known_cons (h : value.isNull = false) :
  Known ((name, value) :: settings) ↔ (∃ field : Field, field.name = name) ∧ Known settings
  := by
  simp [Known, h]

theorem known_cons_of_isNull (h : value.isNull = true) :
  Known ((name, value) :: settings) ↔ Known settings
  := by
  simp [Known, h]

/-- What is chosen for the options after one of them is set is what is chosen with it. -/
theorem chosen_put {field : Field} {coerced : field.Value} (hvalue : value.isNull = false)
    (hcoerce : field.coerce value = .ok coerced) (hname : field.name ∉ settings.map Prod.fst)
    (options : Options) (other : Field) :
  other.chosen (other.get (field.put options coerced)) (given? settings other.name)
    = other.chosen (other.get options) (given? ((field.name, value) :: settings) other.name)
  := by
  by_cases heq : field = other
  · subst heq
    rw [given?_eq_none hname, given?_cons_self hvalue, Field.get_put]
    apply hcoerce.symm
  · have hother : other.name ≠ field.name := by
      intro hother
      apply heq (Field.name_injective hother.symm)
    simp [heq, hother]

/-- Setting several options succeeds exactly if all of them exist and their settings can be coerced.
Then each of them is what its setting is coerced to, and the others are as before. -/
theorem overlay_eq_ok_iff (h : DistinctNames settings) :
  options.overlay settings = .ok result
    ↔ Known settings
      ∧ ∀ field : Field, field.chosen (field.get options) (given? settings field.name)
        = .ok (field.get result)
  := by
  induction settings generalizing options with
  | nil =>
      constructor
      · rintro ⟨⟩
        constructor
        · rintro entry ⟨⟩
        · intro field
          rfl
      · rintro ⟨-, h⟩
        have heq : options = result := by
          apply Field.ext_get
          intro field
          apply Except.ok.inj (h field)
        rw [heq]
        rfl
  | cons entry settings ih =>
      obtain ⟨name, value⟩ := entry
      obtain ⟨hname, hnames⟩ := List.nodup_cons.mp h
      rw [overlay_cons]
      cases hvalue : value.isNull with
      | true =>
          rw [if_pos rfl, ih hnames, known_cons_of_isNull hvalue]
          simp only [given?_cons_of_isNull hvalue hname]
      | false =>
          rw [if_neg Bool.false_ne_true, known_cons hvalue]
          by_cases hfield : ∃ field : Field, field.name = name
          · obtain ⟨field, rfl⟩ := hfield
            have hexists : ∃ other : Field, other.name = field.name := ⟨field, rfl⟩
            rw [set_name, and_iff_right hexists]
            cases hcoerce : field.coerce value with
            | ok coerced =>
                -- No later setting has this name, so the choices after this one is made are the
                -- choices with it.
                simp only [← chosen_put hvalue hcoerce hname]
                apply ih hnames
            | error failure =>
                constructor
                · rintro ⟨⟩
                · rintro ⟨-, hchosen⟩
                  have hfield := hchosen field
                  rw [given?_cons_self hvalue] at hfield
                  cases hcoerce.symm.trans hfield
          · rw [set_of_forall_ne (not_exists.mp hfield)]
            constructor
            · rintro ⟨⟩
            · rintro ⟨⟨hexists, -⟩, -⟩
              apply absurd hexists hfield

/-- With distinct names, the order in which options are set does not matter. -/
theorem overlay_perm (h : settings.Perm others) (hnames : DistinctNames settings)
    (hoverlay : options.overlay settings = .ok result) :
  options.overlay others = .ok result
  := by
  have hothers : DistinctNames others := (h.map Prod.fst).nodup hnames
  rw [overlay_eq_ok_iff hnames] at hoverlay
  rw [overlay_eq_ok_iff hothers]
  constructor
  · intro entry hentry
    apply hoverlay.1 entry (h.mem_iff.mpr hentry)
  · intro field
    rw [← given?_perm h hnames]
    apply hoverlay.2 field

end Options

end ReadmeAudit
