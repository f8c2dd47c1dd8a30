import ReadmeAudit.CommandLine
import ReadmeAudit.Proofs.Files.Tree
import ReadmeAudit.Proofs.Options.Resolution
import ReadmeAudit.Proofs.Setting
import ReadmeAudit.Proofs.Subject

/-!
# Failures of options that are not foreseen

Most of what can be wrong with options is foreseen: it is an error of the options, whose wording the
command line shows before it ends with code 2. The exceptions are few, and this module says which
they are. A setting may give a path by something that is no text, or have a number of too many
digits where a text is made of it, provided that all settings before it are taken. A file of options
may hold bytes that are no text, a number of too many digits, a value that is nested too deep, or
something that is no table where the table of options is expected, or the system may refuse to tell
whether the file is there.
-/

namespace ReadmeAudit

open Files

namespace Options

/-! ### Settings -/

/-- A setting is taken if nothing is given by it, or if it can be coerced to the option of its
name. -/
inductive Taken (entry : String × Setting) : Prop where
  /-- Nothing is given. -/
  | null (isNull_eq : entry.2.isNull = true)
  /-- The setting can be coerced. -/
  | coerced (field : Field) (name_eq : field.name = entry.1) (value : field.Value)
      (coerce_eq : field.coerce entry.2 = .ok value)

/-- How a setting leads to a failure that is not foreseen. -/
inductive Astray : String × Setting → Failure → Prop where
  /-- A path is given by something that is no text. -/
  | path {name : String} {value : Setting} (name_mem : name ∈ ["readme_path", "module_path"])
      (isNull_eq : value.isNull = false) (ne_text : ∀ text, value ≠ .text text) :
      Astray (name, value) .notAPath
  /-- There is a number of too many digits in what is given for the scope. -/
  | scope {value : Setting} (hasLongNumber : value.HasLongNumber) :
      Astray ("scan_mode", value) (.number .unwritable)
  /-- There is a number of too many digits in a list of texts. -/
  | list {name : String} {items : List Setting}
      (name_mem : name ∈ ["provider_prefixes", "additional_sections", "additional_files"])
      (hasLongNumber : (Setting.list items).HasLongNumber) :
      Astray (name, .list items) (.number .unwritable)

/-- The first setting that is not taken leads to a failure that is not foreseen. -/
def GoAstray (settings : List (String × Setting)) (failure : Failure) : Prop :=
  ∃ before entry after, settings = before ++ entry :: after
    ∧ (∀ earlier ∈ before, Taken earlier) ∧ Astray entry failure

variable {settings : List (String × Setting)} {entry : String × Setting} {failure : Failure}
  {name : String} {value : Setting}

@[simp]
theorem not_goAstray_nil :
  ¬ GoAstray [] failure
  := by
  rintro ⟨before, entry, after, hsettings, -⟩
  apply List.append_ne_nil_of_right_ne_nil before (List.cons_ne_nil entry after) hsettings.symm

@[simp]
theorem goAstray_cons_iff :
  GoAstray (entry :: settings) failure
    ↔ Astray entry failure ∨ Taken entry ∧ GoAstray settings failure
  := by
  constructor
  · rintro ⟨before, other, after, hsettings, hbefore, hother⟩
    obtain ⟨rfl, heq⟩ | ⟨before, rfl, rfl⟩ := List.cons_eq_append_iff.mp hsettings
    · obtain ⟨rfl, -⟩ := List.cons.inj heq
      apply Or.inl hother
    · obtain ⟨htaken, hbefore⟩ := List.forall_mem_cons.mp hbefore
      apply Or.inr
      use htaken, before, other, after, rfl, hbefore
  · rintro (hastray | ⟨htaken, before, other, after, rfl, hbefore, hother⟩)
    · use [], entry, settings, rfl, List.forall_mem_nil _
    · use entry :: before, other, after, rfl, List.forall_mem_cons.mpr ⟨htaken, hbefore⟩

theorem toPath_of_ne_text (h : ∀ text, value ≠ .text text) :
  toPath value = .error .notAPath
  := by
  cases value with
  | text text => apply absurd rfl (h text)
  | _ => rfl

theorem texts_eq_error_iff (items : List Setting) (error : Text.NumberError) :
  texts items = .error error ↔ error = .unwritable ∧ (Setting.list items).HasLongNumber
  := by
  rw [Setting.hasLongNumber_list_iff]
  induction items generalizing error with
  | nil => simp [texts]
  | cons item items ih =>
      rw [texts, Setting.cons_eq_error_iff item.asText_eq_error_iff ih, List.exists_mem_cons_iff]

theorem toScope_of_hasLongNumber (h : value.HasLongNumber) :
  toScope value = .error (.number .unwritable)
  := by
  rw [toScope, (value.asText_eq_error_iff .unwritable).mpr ⟨rfl, h⟩]

theorem toList_of_hasLongNumber (name : String) {items : List Setting}
    (h : (Setting.list items).HasLongNumber) :
  toList name (.list items) = .error (.number .unwritable)
  := by
  rw [toList, (texts_eq_error_iff items .unwritable).mpr ⟨rfl, h⟩]
  rfl

/-! ### Coercions that fail -/

theorem toFormat_foreseen (h : toFormat value = .error failure) :
  ¬ failure.IsUnforeseen
  := by
  intro hunforeseen
  rw [toFormat] at h
  split at h
  · apply absurd (Except.error.inj h).symm (hunforeseen _)
  · split at h
    · cases h
    · apply absurd (Except.error.inj h).symm (hunforeseen _)

theorem toTruth_foreseen (h : toTruth name value = .error failure) :
  ¬ failure.IsUnforeseen
  := by
  intro hunforeseen
  rw [toTruth.eq_def] at h
  split at h
  · cases h
  · apply absurd (Except.error.inj h).symm (hunforeseen _)

theorem astray_of_toScope (h : toScope value = .error failure)
    (hunforeseen : failure.IsUnforeseen) :
  Astray ("scan_mode", value) failure
  := by
  rw [toScope] at h
  split at h
  · next error htext =>
    obtain rfl := Except.error.inj h
    obtain ⟨rfl, hlong⟩ := (value.asText_eq_error_iff error).mp htext
    apply Astray.scope hlong
  · split at h
    · cases h
    · apply absurd (Except.error.inj h).symm (hunforeseen _)

theorem astray_of_toList
    (hname : name ∈ ["provider_prefixes", "additional_sections", "additional_files"])
    (h : toList name value = .error failure) (hunforeseen : failure.IsUnforeseen) :
  Astray (name, value) failure
  := by
  rw [toList.eq_def] at h
  split at h
  · next items =>
    cases htexts : texts items with
    | ok found =>
        rw [htexts] at h
        cases h
    | error error =>
        rw [htexts] at h
        obtain rfl := Except.error.inj h
        obtain ⟨rfl, hlong⟩ := (texts_eq_error_iff items error).mp htexts
        apply Astray.list hname hlong
  · apply absurd (Except.error.inj h).symm (hunforeseen _)

theorem astray_of_toPath (hname : name ∈ ["readme_path", "module_path"])
    (hnull : value.isNull = false) (h : (toPath value).map some = .error failure) :
  Astray (name, value) failure
  := by
  have hne : ∀ text, value ≠ .text text := by
    rintro text rfl
    cases h
  rw [toPath_of_ne_text hne] at h
  obtain rfl := Except.error.inj h
  apply Astray.path hname hnull hne

/-- What keeps a setting from being coerced is foreseen, unless the setting is astray. -/
theorem Field.astray_of_coerce {field : Field} (hnull : value.isNull = false)
    (h : field.coerce value = .error failure) (hunforeseen : failure.IsUnforeseen) :
  Astray (field.name, value) failure
  := by
  cases field with
  | readme => apply astray_of_toPath (by decide) hnull h
  | module => apply astray_of_toPath (by decide) hnull h
  | format => apply absurd hunforeseen (toFormat_foreseen h)
  | scope => apply astray_of_toScope h hunforeseen
  | prefixes => apply astray_of_toList (by decide) h hunforeseen
  | sections => apply astray_of_toList (by decide) h hunforeseen
  | files => apply astray_of_toList (by decide) h hunforeseen
  | verbose => apply absurd hunforeseen (toTruth_foreseen h)
  | skip kind => apply absurd hunforeseen (toTruth_foreseen h)

/-- A setting that is astray is given for an option to which it cannot be coerced. -/
theorem Astray.exists_coerce (h : Astray entry failure) :
  ∃ field : Field, field.name = entry.1 ∧ field.coerce entry.2 = .error failure
  := by
  cases h with
  | @path name value hname hnull hne =>
      have hpath : (toPath value).map some = .error .notAPath := by
        rw [toPath_of_ne_text hne]
        rfl
      simp only [List.mem_cons, List.not_mem_nil, or_false] at hname
      obtain rfl | rfl := hname
      · use .readme, rfl, hpath
      · use .module, rfl, hpath
  | scope hlong => use .scope, rfl, toScope_of_hasLongNumber hlong
  | list hname hlong =>
      simp only [List.mem_cons, List.not_mem_nil, or_false] at hname
      obtain rfl | rfl | rfl := hname
      · use .prefixes, rfl
        apply toList_of_hasLongNumber Field.prefixes.name hlong
      · use .sections, rfl
        apply toList_of_hasLongNumber Field.sections.name hlong
      · use .files, rfl
        apply toList_of_hasLongNumber Field.files.name hlong

theorem Astray.isUnforeseen (h : Astray entry failure) :
  failure.IsUnforeseen
  := by
  cases h with
  | path => rintro error ⟨⟩
  | scope => rintro error ⟨⟩
  | list => rintro error ⟨⟩

theorem Astray.isNull_eq_false (h : Astray entry failure) :
  entry.2.isNull = false
  := by
  cases h with
  | path _ hnull _ => apply hnull
  | scope hlong => cases hlong <;> rfl
  | list => rfl

/-- The failures of a setting that are not foreseen are those to which it goes astray. -/
theorem set_unforeseen_iff (options : Options) (hnull : entry.2.isNull = false) :
  options.set entry.1 entry.2 = .error failure ∧ failure.IsUnforeseen ↔ Astray entry failure
  := by
  constructor
  · rintro ⟨hset, hunforeseen⟩
    by_cases hfield : ∃ field : Field, field.name = entry.1
    · obtain ⟨field, hname⟩ := hfield
      rw [← hname, set_name] at hset
      cases hcoerce : field.coerce entry.2 with
      | ok value =>
          rw [hcoerce] at hset
          cases hset
      | error other =>
          rw [hcoerce] at hset
          obtain rfl := Except.error.inj hset
          have hastray := Field.astray_of_coerce hnull hcoerce hunforeseen
          rw [hname] at hastray
          apply hastray
    · rw [set_of_forall_ne (not_exists.mp hfield)] at hset
      apply absurd (Except.error.inj hset).symm (hunforeseen _)
  · intro h
    obtain ⟨field, hname, hcoerce⟩ := h.exists_coerce
    constructor
    · rw [← hname, set_name, hcoerce]
      rfl
    · apply h.isUnforeseen

/-- A setting that gives something is taken exactly if it sets an option. -/
theorem taken_iff (options : Options) (hnull : entry.2.isNull = false) :
  Taken entry ↔ ∃ changed, options.set entry.1 entry.2 = .ok changed
  := by
  constructor
  · intro h
    cases h with
    | null hnull' =>
        rw [hnull] at hnull'
        cases hnull'
    | coerced field hname value hcoerce =>
        use field.put options value
        rw [← hname, set_name, hcoerce]
        rfl
  · rintro ⟨changed, hset⟩
    by_cases hfield : ∃ field : Field, field.name = entry.1
    · obtain ⟨field, hname⟩ := hfield
      rw [← hname, set_name] at hset
      cases hcoerce : field.coerce entry.2 with
      | ok value => apply Taken.coerced field hname value hcoerce
      | error other =>
          rw [hcoerce] at hset
          cases hset
    · rw [set_of_forall_ne (not_exists.mp hfield)] at hset
      cases hset

/-- The failures of settings that are not foreseen are those to which they go astray. -/
theorem overlay_unforeseen_iff (options : Options) :
  options.overlay settings = .error failure ∧ failure.IsUnforeseen ↔ GoAstray settings failure
  := by
  induction settings generalizing options with
  | nil =>
      apply iff_of_false _ not_goAstray_nil
      rintro ⟨⟨⟩, -⟩
  | cons entry settings ih =>
      rw [goAstray_cons_iff, overlay_cons]
      cases hnull : entry.2.isNull with
      | true =>
          have hastray : ¬ Astray entry failure := by
            intro h
            rw [h.isNull_eq_false] at hnull
            cases hnull
          rw [if_pos rfl, ih options, or_iff_right hastray, and_iff_right (Taken.null hnull)]
      | false =>
          rw [if_neg Bool.false_ne_true, ← set_unforeseen_iff options hnull,
            taken_iff options hnull]
          cases options.set entry.1 entry.2 with
          | ok changed => simpa [Except.bind] using ih changed
          | error other => simp [Except.bind]

/-! ### Files of options -/

/-- The settings that the content of a file of options gives. -/
def contentSettings (content : ByteArray) : Except Failure (List (String × Setting)) :=
  match String.fromUTF8? content with
  | none => .error .notText
  | some text => (Toml.parse text).mapError ofStop >>= tableOf

/-- How the content of a file of options leads to a failure that is not foreseen. -/
inductive Derails (content : ByteArray) : Failure → Prop where
  /-- The content is no text. -/
  | notText (fromUTF8?_eq : String.fromUTF8? content = none) : Derails content .notText
  /-- A whole number has too many digits to be read. -/
  | number {text : String} {error : Text.NumberError}
      (fromUTF8?_eq : String.fromUTF8? content = some text)
      (parse_eq : Toml.parse text = .error (.number error)) : Derails content (.number error)
  /-- A value is nested too deep. -/
  | tooDeep {text : String} (fromUTF8?_eq : String.fromUTF8? content = some text)
      (parse_eq : Toml.parse text = .error .tooDeep) : Derails content .tooDeep
  /-- The options are no table. -/
  | notATable {text : String} {fields : Toml.Fields} {value : Setting}
      (fromUTF8?_eq : String.fromUTF8? content = some text)
      (parse_eq : Toml.parse text = .ok fields)
      (lookup_eq : fields.lookup "readme_validator" = some value)
      (ne_table : ∀ settings, value ≠ .table settings) : Derails content .notATable
  /-- The settings of the table go astray. -/
  | settings {text : String} {fields : Toml.Fields} {settings : List (String × Setting)}
      {failure : Failure} (fromUTF8?_eq : String.fromUTF8? content = some text)
      (parse_eq : Toml.parse text = .ok fields)
      (lookup_eq : fields.lookup "readme_validator" = some (.table settings))
      (goAstray : GoAstray settings failure) : Derails content failure

theorem tableOf_of_ne_table {fields : Toml.Fields} {value : Setting}
    (hlookup : fields.lookup tableName = some value) (h : ∀ settings, value ≠ .table settings) :
  tableOf fields = .error .notATable
  := by
  rw [tableOf, hlookup]
  cases value with
  | table settings => apply absurd rfl (h settings)
  | _ => rfl

variable {content : ByteArray}

theorem tableOf_of_table {fields : Toml.Fields}
    (hlookup : fields.lookup tableName = some (.table settings)) :
  tableOf fields = .ok settings
  := by
  rw [tableOf, hlookup]

theorem contentSettings_of_parse {text : String} {result : Except Text.Stop Toml.Fields}
    (htext : String.fromUTF8? content = some text) (hparse : Toml.parse text = result) :
  contentSettings content = (result.mapError ofStop >>= tableOf)
  := by
  subst hparse
  rw [contentSettings, htext]

theorem Derails.contentSettings_eq (h : Derails content failure) :
  contentSettings content >>= ofSettings = .error failure ∧ failure.IsUnforeseen
  := by
  cases h with
  | notText htext =>
      rw [contentSettings, htext]
      use rfl
      rintro error ⟨⟩
  | number htext hparse =>
      rw [contentSettings_of_parse htext hparse]
      use rfl
      rintro error ⟨⟩
  | tooDeep htext hparse =>
      rw [contentSettings_of_parse htext hparse]
      use rfl
      rintro error ⟨⟩
  | @notATable text fields value htext hparse hlookup hvalue =>
      rw [contentSettings_of_parse htext hparse]
      change (tableOf fields >>= ofSettings) = _ ∧ _
      rw [tableOf_of_ne_table hlookup hvalue]
      use rfl
      rintro error ⟨⟩
  | @settings text fields settings _ htext hparse hlookup hastray =>
      rw [contentSettings_of_parse htext hparse]
      change (tableOf fields >>= ofSettings) = _ ∧ _
      rw [tableOf_of_table hlookup]
      apply (overlay_unforeseen_iff {}).mpr hastray

theorem derails_of_stop {text : String} {stop : Text.Stop}
    (htext : String.fromUTF8? content = some text) (hparse : Toml.parse text = .error stop)
    (hunforeseen : (ofStop stop).IsUnforeseen) :
  Derails content (ofStop stop)
  := by
  cases stop with
  | mismatch => apply absurd rfl (hunforeseen _)
  | number error => apply Derails.number htext hparse
  | tooDeep => apply Derails.tooDeep htext hparse

theorem derails_of_fields {text : String} {fields : Toml.Fields}
    (htext : String.fromUTF8? content = some text) (hparse : Toml.parse text = .ok fields)
    (h : tableOf fields >>= ofSettings = .error failure) (hunforeseen : failure.IsUnforeseen) :
  Derails content failure
  := by
  cases hlookup : fields.lookup tableName with
  | none =>
      rw [tableOf, hlookup] at h
      cases h
  | some value =>
      by_cases htable : ∃ settings, value = .table settings
      · obtain ⟨settings, rfl⟩ := htable
        rw [tableOf_of_table hlookup] at h
        apply Derails.settings htext hparse hlookup
        apply (overlay_unforeseen_iff {}).mp ⟨h, hunforeseen⟩
      · have hne := not_exists.mp htable
        rw [tableOf_of_ne_table hlookup hne] at h
        obtain rfl := Except.error.inj h
        apply Derails.notATable htext hparse hlookup hne

/-- The failures of the content of a file that are not foreseen are those to which it derails. -/
theorem contentSettings_unforeseen_iff :
  contentSettings content >>= ofSettings = .error failure ∧ failure.IsUnforeseen
    ↔ Derails content failure
  := by
  constructor
  · rintro ⟨h, hunforeseen⟩
    cases htext : String.fromUTF8? content with
    | none =>
        rw [contentSettings, htext] at h
        obtain rfl := Except.error.inj h
        apply Derails.notText htext
    | some text =>
        cases hparse : Toml.parse text with
        | error stop =>
            rw [contentSettings_of_parse htext hparse] at h
            obtain rfl := Except.error.inj h
            apply derails_of_stop htext hparse hunforeseen
        | ok fields =>
            rw [contentSettings_of_parse htext hparse] at h
            apply derails_of_fields htext hparse h hunforeseen
  · apply Derails.contentSettings_eq

variable {files : FileSystem} {file : Option Path}

theorem load_result (files : FileSystem) (file : Option Path) :
  (load files file).result = (fileSettings files file >>= ofSettings)
  := by
  have hends : Audit.Ends (.read "" .auto []) (load files file) _ := load_ends files file
  apply hends.result_eq

theorem isThere_of_read {path : Path} (h : files.read path = .ok content) :
  files.isThere path = .ok true
  := by
  rw [FileSystem.read] at h
  split at h
  · next hfind => apply FileSystem.test_eq_true_iff.mpr ⟨_, hfind, rfl⟩
  · cases h
  · cases h

/-- A file that can be read gives the settings of its content. -/
theorem fileSettings_of_read (h : files.read (file.getD defaultFile) = .ok content) :
  fileSettings files file = contentSettings content
  := by
  unfold fileSettings
  rw [isThere_of_read h]
  change readFile files (file.getD defaultFile) >>= tableOf = contentSettings content
  rw [readFile, h, contentSettings]
  dsimp only
  cases String.fromUTF8? content with
  | none => rfl
  | some text => rfl

/-- If there is no file that can be read, a failure is foreseen unless the system refuses to tell
whether the file is there. -/
theorem fileSettings_unforeseen_of_not_read
    (h : ∀ content, files.read (file.getD defaultFile) ≠ .ok content) :
  fileSettings files file >>= ofSettings = .error failure ∧ failure.IsUnforeseen
    ↔ ∃ fault, files.isThere (file.getD defaultFile) = .error fault ∧ failure = .refused fault
  := by
  unfold fileSettings
  cases hthere : files.isThere (file.getD defaultFile) with
  | error fault =>
      constructor
      · rintro ⟨heq, -⟩
        use fault, rfl, (Except.error.inj heq).symm
      · rintro ⟨fault', hfault, rfl⟩
        obtain rfl := Except.error.inj hfault
        use rfl
        rintro error ⟨⟩
  | ok there =>
      have hrefused : ¬ ∃ fault, Except.ok there = .error fault ∧ failure = .refused fault := by
        rintro ⟨fault, ⟨⟩, -⟩
      apply iff_of_false _ hrefused
      rintro ⟨heq, hunforeseen⟩
      cases there with
      | false =>
          cases file with
          | none => cases heq
          | some path => apply absurd (Except.error.inj heq).symm (hunforeseen _)
      | true =>
          obtain ⟨entry, hfind, -⟩ := FileSystem.test_eq_true_iff.mp hthere
          obtain content | ⟨size, entries⟩ := entry
          · apply h content
            rw [FileSystem.read, hfind]
          · have hread : readFile files (file.getD defaultFile) = .error (.options
                (.unreadableFile ⟨.isADirectory, (file.getD defaultFile).text⟩)) := by
              rw [readFile, FileSystem.read, hfind]
            rw [hread] at heq
            apply absurd (Except.error.inj heq).symm (hunforeseen _)

/-- The options of a file come to a failure that is not foreseen only through its content, or if the
system refuses to tell whether the file is there. -/
theorem load_unforeseen_iff :
  (load files file).result = .error failure ∧ failure.IsUnforeseen
    ↔ (∃ fault, files.isThere (file.getD defaultFile) = .error fault ∧ failure = .refused fault)
      ∨ ∃ content, files.read (file.getD defaultFile) = .ok content ∧ Derails content failure
  := by
  rw [load_result]
  by_cases hread : ∃ content, files.read (file.getD defaultFile) = .ok content
  · obtain ⟨content, hread⟩ := hread
    rw [fileSettings_of_read hread, contentSettings_unforeseen_iff]
    constructor
    · intro hderails
      apply Or.inr ⟨content, hread, hderails⟩
    · rintro (⟨fault, hfault, -⟩ | ⟨content', hread', hderails⟩)
      · rw [isThere_of_read hread] at hfault
        cases hfault
      · rw [hread] at hread'
        obtain rfl := Except.ok.inj hread'
        apply hderails
  · rw [fileSettings_unforeseen_of_not_read (not_exists.mp hread), or_iff_left]
    rintro ⟨content, hread', -⟩
    apply hread ⟨content, hread'⟩

end Options

/-! ### The command line -/

namespace CommandLine

variable {world : World} {arguments : List String} {found : Arguments} {failure : Failure}

/-- The file of options that arguments name. -/
def optionsFile (found : Arguments) : Option Path :=
  (found.value? .config).map Path.ofText

/-- If the file of options fails, that is what the command line ends with. -/
theorem run_of_load_error (hrequest : request arguments = .ok (.audit found))
    (hload : (Options.load world.files (optionsFile found)).result = .error failure) :
  ∃ events, run world arguments = failed failure (log (threshold (found.has .verbose)) events) []
  := by
  rcases houtcome : (Options.load world.files (optionsFile found)).outcome .empty with
    ⟨result, before⟩
  rw [Audit.result, houtcome] at hload
  obtain rfl : result = .error failure := hload
  have hresolve : (Options.resolve world (optionsFile found) (settings found)).outcome .empty
      = (.error failure, before) := by
    rw [Options.resolve, Audit.outcome_bind, houtcome]
  use before.history
  rw [run, hrequest]
  dsimp only
  rw [perform, ← optionsFile, hresolve]

/-- Settings come to a failure that is not foreseen exactly if the first of them that is not taken
gives a path by something that is no text, or has a number of too many digits where a text is made
of it. A file of options does so exactly if the system refuses to tell whether it is there, if its
content is no text, if a number in it has too many digits to be read or a value is nested too deep,
if it has something that is no table in place of the table of options, or if the settings in the
table do so. If the file fails, the command line shows the wording of the failure and ends with
code 2 if it is foreseen, and otherwise ends with code 1 and shows nothing but events. -/
theorem options_unforeseen_iff (world : World) (file : Option Path)
    (settings : List (String × Setting)) (arguments : List String) (failure : Failure) :
  (Options.ofSettings settings = .error failure ∧ failure.IsUnforeseen
    ↔ Options.GoAstray settings failure)
    ∧ ((Options.load world.files file).result = .error failure ∧ failure.IsUnforeseen
      ↔ (∃ fault, world.files.isThere (file.getD Options.defaultFile) = .error fault
          ∧ failure = .refused fault)
        ∨ ∃ content, world.files.read (file.getD Options.defaultFile) = .ok content
          ∧ Options.Derails content failure)
    ∧ ∀ found, request arguments = .ok (.audit found) →
      (Options.load world.files (optionsFile found)).result = .error failure →
      ∃ events,
        (∀ error, failure = .options error →
          run world arguments = ⟨2, "", log (threshold (found.has .verbose)) events
            ++ unlines ["Error: " ++ error.message], none, []⟩)
        ∧ (failure.IsUnforeseen →
          run world arguments
            = ⟨1, "", log (threshold (found.has .verbose)) events, some failure, []⟩)
  := by
  use Options.overlay_unforeseen_iff {}, Options.load_unforeseen_iff
  intro found hrequest hload
  obtain ⟨events, hrun⟩ := run_of_load_error hrequest hload
  use events
  constructor
  · rintro error rfl
    apply hrun
  · intro hunforeseen
    rw [hrun]
    cases failure with
    | options error => apply absurd rfl (hunforeseen error)
    | _ => rfl

/-- A world with nothing but a file of options. -/
def worldOf (content : ByteArray) : World :=
  ⟨⟨.directory 4096 [("options.toml", .file content)], ⟨.slash, []⟩⟩, [], {}, fun _ => .status 200⟩

/-- Failures that are not foreseen: a number for a path, a number of too many digits for the scope,
a byte that begins no character, and a number for the table of options. -/
theorem options_unforeseen_number_and_byte :
  Options.ofSettings [("readme_path", .integer 5)] = .error .notAPath
    ∧ Options.ofSettings [("scan_mode", .integer (10 ^ Text.digitLimit))]
      = .error (.number .unwritable)
    ∧ (Options.load (worldOf ⟨#[0xff]⟩).files (some (.ofText "options.toml"))).result
      = .error .notText
    ∧ (Options.load (worldOf "readme_validator = 5\n".toUTF8).files
      (some (.ofText "options.toml"))).result = .error .notATable
    ∧ (run (worldOf ⟨#[0xff]⟩) ["--config", "options.toml"]).code = 1
  := by
  have hpower : ∀ count, ((10 : Int) ^ count).natAbs = 10 ^ count := Int.natAbs_pow 10
  have hlong : Options.GoAstray [("scan_mode", .integer (10 ^ Text.digitLimit))]
      (.number .unwritable) := by
    apply Options.goAstray_cons_iff.mpr
    apply Or.inl
    apply Options.Astray.scope
    apply Setting.HasLongNumber.integer
    rw [hpower]
  use rfl, ((Options.overlay_unforeseen_iff {}).mpr hlong).1
  decide +kernel

end CommandLine

end ReadmeAudit
