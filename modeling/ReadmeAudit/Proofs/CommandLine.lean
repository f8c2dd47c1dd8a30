import ReadmeAudit.CommandLine
import ReadmeAudit.Proofs.Options.Resolution
import ReadmeAudit.Proofs.Report
import ReadmeAudit.Proofs.Subject

/-!
# Exit codes

The exit code of a run says whether the audit has found problems. An audit that stops at the first
problem has the same exit code as one that finds all of them: the checks find the same in both, and
if one of them fails, then the run fails with the code that it has if there are problems. It is also
the code of a run whose report cannot be shown.
-/

namespace ReadmeAudit

open Files Audit

/-! ### The opening of an audit -/

namespace Subject

variable {readme : Readme}

theorem resolved_steady (world : World) (options : Options) :
  Steady readme (fun _ => True) (resolved world options)
  := by
  rw [resolved]
  split
  · apply (Ends.pure _).steady_ok
  · apply ((Options.finalize_ends world options).steady fun _ _ => trivial).bind
    intro options
    split
    · apply (Ends.pure _).steady_ok
    · apply Steady.throw trivial

theorem readReadme_ends (text : String) (options : Options) :
  Ends readme (readReadme text options) (.ok (.read text options.format options.prefixes))
  := by
  rw [readReadme]
  dsimp only
  split
  · apply (note_ends _).bind
    apply (note_ends _).bind
    apply Ends.pure
  · apply (note_ends _).bind
    apply Ends.pure

theorem prepare_steady (world : World) (options : Options) :
  Steady readme (fun _ => True) (prepare world options)
  := by
  apply (resolved_steady world options).bind
  rintro ⟨options, readmePath, modulePath⟩
  apply ((ofExcept_ends _).steady fun _ _ => trivial).bind
  intro text
  apply (readReadme_ends text options).steady_ok.bind
  intro found
  apply (Ends.pure _).steady_ok

theorem chosen_steady (options : Options) (kinds : List CheckKind) :
  Steady readme (fun _ => True) (chosen options kinds)
  := by
  induction kinds with
  | nil => apply (Ends.pure _).steady_ok
  | cons kind kinds ih =>
      rw [chosen]
      split
      · apply (note_ends _).steady_ok.bind
        intro _
        apply ih
      · apply ih.bind
        intro kinds
        apply (Ends.pure _).steady_ok

/-- An audit opens in the same way whatever README is remembered. -/
theorem opening_steady (readme : Readme) (world : World) (options : Options) :
  Steady readme (fun _ => True) (opening world options)
  := by
  apply (prepare_steady world options).bind
  intro subject
  apply (chosen_steady subject.options CheckKind.all).bind
  intro kinds
  apply (note_ends _).steady_ok.bind
  intro _
  apply (Ends.pure _).steady_ok

end Subject

namespace CommandLine

/-! ### Exit codes -/

/-- The exit code for the problems of an audit. -/
def exitCode : Except Failure (List Problem) → Nat
  | .ok problems => if problems.isEmpty then 0 else 1
  | .error (.options _) => 2
  | .error _ => 1

theorem failed_code (failure : Failure) (err : String) (requests : List String) :
  (failed failure err requests).code = exitCode (.error failure)
  := by
  cases failure <;> rfl

variable {world : World} {options : Options} {subject : Subject} {kinds : List CheckKind}

/-- What an audit that has been opened finds. -/
def findings (subject : Subject) (world : World) (kinds : List CheckKind) (failFast : Bool) :
    Except Failure (List Problem) :=
  if failFast then (Subject.foundFirst (kinds.map (subject.alone world))).map Option.toList
  else Subject.foundAll (kinds.map (subject.alone world))

theorem audit_ends (h : (Subject.opening world options).result = .ok (subject, kinds))
    (failFast : Bool) :
  Ends subject.readme (audit world failFast options)
    ((findings subject world kinds failFast).map (subject, ·))
  := by
  have hopening := (Subject.opening_steady subject.readme world options).ends
  rw [h] at hopening
  apply hopening.bind
  cases failFast with
  | true =>
      have hmap : ∀ result : Except Failure (Option Problem),
          (result.map Option.toList).map (subject, ·)
            = result.map fun problem => (subject, problem.toList) := by
        intro result
        cases result <;> rfl
      rw [findings, if_pos rfl, hmap]
      apply (subject.firstProblem?_ends world kinds).map
  | false => apply (subject.problems_ends world kinds).map

theorem audit_ends_error {readme : Readme} {failure : Failure}
    (h : (Subject.opening world options).result = .error failure) (failFast : Bool) :
  Ends readme (audit world failFast options) (.error failure)
  := by
  have hopening := (Subject.opening_steady readme world options).ends
  rw [h] at hopening
  apply hopening.bind_error

/-- The problems of a subject, if the report on them can be shown. -/
def reported (world : World) (subject : Subject) (problems : List Problem) :
    Except Failure (List Problem) :=
  (report world subject problems).map fun _ => problems

/-- What is reported about an audit that has been opened. -/
def presented (subject : Subject) (world : World) (kinds : List CheckKind) (failFast : Bool) :
    Except Failure (List Problem) :=
  findings subject world kinds failFast >>= reported world subject

/-- The problems of the audit with some options, if it opens, no check fails and the report can be
shown. -/
def audited (world : World) (failFast : Bool) (options : Options) : Except Failure (List Problem) :=
  (Subject.opening world options).result >>= fun (subject, kinds) =>
    presented subject world kinds failFast

/-- An audit at the beginning of which nothing wrong is remembered finds these problems. -/
theorem outcome_audit_bind (world : World) (failFast : Bool) (options : Options) {trace : Trace}
    (htrace : ∀ readme, trace.memo.Faithful readme) :
  (((audit world failFast options).outcome trace).1 >>= fun (subject, problems) =>
      reported world subject problems)
    = audited world failFast options
  := by
  rw [audited]
  cases hopening : (Subject.opening world options).result with
  | error failure =>
      -- There is no subject, and any README will do.
      rw [(audit_ends_error hopening failFast).outcome_fst (htrace (.read "" .auto []))]
      rfl
  | ok opened =>
      obtain ⟨subject, kinds⟩ := opened
      rw [(audit_ends hopening failFast).outcome_fst (htrace subject.readme)]
      change _ = presented subject world kinds failFast
      rw [presented]
      cases findings subject world kinds failFast <;> rfl

/-- The exit code depends only on the options and on the problems. -/
theorem perform_code (world : World) (arguments : Arguments) :
  (perform world arguments).code
    = exitCode ((Options.resolve world ((arguments.value? .config).map Path.ofText)
        (settings arguments)).result >>= audited world (arguments.has .failFast))
  := by
  rcases houtcome : (Options.resolve world ((arguments.value? .config).map Path.ofText)
    (settings arguments)).outcome .empty with ⟨result, before⟩
  -- The README is not known before the options are, so nothing is remembered of any.
  have hbefore : ∀ readme, before.memo.Faithful readme := by
    intro readme
    obtain ⟨after, hafter, hfaithful⟩ :=
      Options.resolve_ends _ _ _ .empty (Memo.empty_faithful readme)
    rw [houtcome] at hafter
    cases hafter
    apply hfaithful
  rw [perform, Audit.result, houtcome]
  cases result with
  | error failure => apply failed_code
  | ok options =>
      change _ = exitCode (audited world (arguments.has .failFast) options)
      have haudit : (((audit world (arguments.has .failFast) options).outcome
          { before with events := [] }).1 >>= fun (subject, problems) =>
            reported world subject problems) = audited world _ options :=
        outcome_audit_bind world _ options hbefore
      rw [← haudit]
      dsimp only
      rcases (audit world (arguments.has .failFast) options).outcome
        { before with events := [] } with ⟨result, after⟩
      cases result with
      | error failure => apply failed_code
      | ok found =>
          obtain ⟨subject, problems⟩ := found
          change _ = exitCode (reported world subject problems)
          dsimp only
          rw [reported]
          cases report world subject problems with
          | error failure => apply failed_code
          | ok text => rfl

/-! ### Stopping at the first problem -/

theorem exitCode_eq_one {result : Except Failure (List Problem)} (hresult : FailsUnforeseen result)
    (h : result ≠ .ok []) :
  exitCode result = 1
  := by
  cases result with
  | error failure =>
      cases failure with
      | options error => apply absurd rfl (hresult.of_eq rfl error)
      | _ => rfl
  | ok problems =>
      cases problems with
      | nil => apply absurd rfl h
      | cons problem problems => rfl

theorem findings_failsUnforeseen (failFast : Bool) :
  FailsUnforeseen (findings subject world kinds failFast)
  := by
  constructor
  intro failure h
  have hmem : .error failure ∈ kinds.map (subject.alone world) := by
    cases failFast with
    | true =>
        apply Subject.mem_of_foundFirst_eq_error
        rw [findings, if_pos rfl] at h
        cases hfirst : Subject.foundFirst (kinds.map (subject.alone world)) with
        | error other =>
            rw [hfirst] at h
            cases h
            rfl
        | ok problem =>
            rw [hfirst] at h
            cases h
    | false => apply Subject.mem_of_foundAll_eq_error h
  obtain ⟨kind, -, hkind⟩ := List.mem_map.mp hmem
  apply (subject.check_steady world kind).of_result failure hkind

theorem numberIn?_failsUnforeseen (world : World) (name : String) :
  FailsUnforeseen (numberIn? world name)
  := by
  rw [numberIn?]
  split
  · apply FailsUnforeseen.number
  · apply FailsUnforeseen.ok

theorem report_failsUnforeseen (world : World) (subject : Subject) (problems : List Problem) :
  FailsUnforeseen (report world subject problems)
  := by
  apply FailsUnforeseen.bind
  · apply (numberIn?_failsUnforeseen world "COLUMNS").bind
    intro columns
    apply (numberIn?_failsUnforeseen world "LINES").bind
    intro _
    apply FailsUnforeseen.ok
  · intro width
    apply Report.render_failsUnforeseen

theorem reported_failsUnforeseen (world : World) (subject : Subject) (problems : List Problem) :
  FailsUnforeseen (reported world subject problems)
  := (report_failsUnforeseen world subject problems).map _

theorem presented_failsUnforeseen (failFast : Bool) :
  FailsUnforeseen (presented subject world kinds failFast)
  := (findings_failsUnforeseen failFast).bind (reported_failsUnforeseen world subject)

/-- Both ways to audit find nothing if each check finds nothing. -/
theorem findings_eq_nil_iff (failFast : Bool) :
  findings subject world kinds failFast = .ok [] ↔ ∀ kind ∈ kinds, subject.alone world kind = .ok []
  := by
  have hresults : (∀ result ∈ kinds.map (subject.alone world), result = .ok [])
      ↔ ∀ kind ∈ kinds, subject.alone world kind = .ok [] := List.forall_mem_map
  rw [← hresults]
  cases failFast with
  | true =>
      rw [← Subject.foundFirst_eq_none_iff, findings, if_pos rfl]
      cases Subject.foundFirst (kinds.map (subject.alone world)) with
      | error failure =>
          constructor
          · rintro ⟨⟩
          · rintro ⟨⟩
      | ok problem => cases problem <;> simp [Except.map]
  | false => apply Subject.foundAll_eq_nil_iff

theorem reported_eq_nil_iff {problems : List Problem} :
  reported world subject problems = .ok [] ↔ problems = [] ∧ (report world subject []).isOk = true
  := by
  rw [reported]
  cases problems with
  | nil =>
      cases report world subject [] with
      | error failure => simp [Except.map, Except.isOk, Except.toBool]
      | ok text => simp [Except.map, Except.isOk, Except.toBool]
  | cons problem problems =>
      cases report world subject (problem :: problems) with
      | error failure => simp [Except.map]
      | ok text => simp [Except.map]

/-- Nothing is reported if nothing is found and this can be shown. -/
theorem presented_eq_nil_iff (failFast : Bool) :
  presented subject world kinds failFast = .ok []
    ↔ (∀ kind ∈ kinds, subject.alone world kind = .ok []) ∧ (report world subject []).isOk = true
  := by
  rw [presented, ← findings_eq_nil_iff failFast]
  cases findings subject world kinds failFast with
  | error failure =>
      constructor
      · rintro ⟨⟩
      · rintro ⟨⟨⟩, -⟩
  | ok problems =>
      change reported world subject problems = .ok [] ↔ _
      rw [reported_eq_nil_iff, Except.ok.injEq]

theorem exitCode_presented (failFast : Bool) :
  exitCode (presented subject world kinds failFast) = exitCode (presented subject world kinds false)
  := by
  -- A failure has the same code as a problem, so it does not matter which of them comes first.
  by_cases hsilent : presented subject world kinds false = .ok []
  · have hsilent' : presented subject world kinds failFast = .ok [] := by
      rwa [presented_eq_nil_iff, ← presented_eq_nil_iff false]
    rw [hsilent, hsilent']
  · rw [exitCode_eq_one (presented_failsUnforeseen failFast),
      exitCode_eq_one (presented_failsUnforeseen false) hsilent]
    rwa [ne_eq, presented_eq_nil_iff, ← presented_eq_nil_iff false]

theorem exitCode_audited (failFast : Bool) (result : Except Failure Options) :
  exitCode (result >>= audited world failFast) = exitCode (result >>= audited world false)
  := by
  cases result with
  | error failure => rfl
  | ok options =>
      change exitCode (audited world failFast options) = exitCode (audited world false options)
      rw [audited, audited]
      cases (Subject.opening world options).result with
      | error failure => rfl
      | ok opened => apply exitCode_presented

namespace Arguments

variable {arguments : Arguments} {option other : Switch} {value : String}

@[simp]
theorem values_withOption_of_ne (h : option ≠ other) :
  (arguments.withOption option value).values other = arguments.values other
  := by
  simp [values, withOption, h]

@[simp]
theorem has_withOption_of_ne (h : option ≠ other) :
  (arguments.withOption option value).has other = arguments.has other
  := by
  simp [has, withOption, h]

@[simp]
theorem value?_withOption_of_ne (h : option ≠ other) :
  (arguments.withOption option value).value? other = arguments.value? other
  := by
  rw [value?, value?, values_withOption_of_ne h]

/-- An option that takes any value makes no difference to the errors in the values. -/
theorem valueError?_withOption (h : option.choices? = none) :
  (arguments.withOption option value).valueError? = arguments.valueError?
  := by
  have hbad : (arguments.withOption option value).badChoice? = arguments.badChoice? := by
    funext other
    by_cases hother : option = other
    · subst hother
      rw [badChoice?, badChoice?, h]
    · rw [badChoice?, badChoice?, value?_withOption_of_ne hother]
  have hnone : arguments.badChoice? option = none := by
    rw [badChoice?, h]
  rw [valueError?, valueError?, hbad, withOption, List.map_cons, List.findSome?_cons, hnone]

theorem read_failFast (arguments : List String) :
  read ("--fail-fast" :: arguments) = (read arguments).map (withOption .failFast "")
  := by
  have hmeaning : meaning "--fail-fast" = .ok (.complete .failFast "") := by rfl
  rw [read, hmeaning]

end Arguments

/-- The request with an option to stop at the first problem added. -/
def Request.failingFast : Request → Request
  | audit arguments => audit (arguments.withOption .failFast "")
  | other => other

theorem request_failFast (arguments : List String) :
  request ("--fail-fast" :: arguments) = (request arguments).map Request.failingFast
  := by
  rw [request, request, Arguments.read_failFast]
  cases Arguments.read arguments with
  | error error => rfl
  | ok found =>
      simp only [Except.map, bind, Except.bind]
      rw [Arguments.valueError?_withOption rfl]
      have heager : ((found.withOption .failFast "").given.map (·.1)).find?
            (fun option => option = .help || option = .version)
          = (found.given.map (·.1)).find? fun option => option = .help || option = .version := rfl
      rw [heager]
      cases (found.given.map (·.1)).find? fun option => option = .help || option = .version with
      | some option => cases option <;> rfl
      | none =>
          cases found.valueError? with
          | some error => rfl
          | none =>
              change (if found.others.isEmpty then _ else _) = _
              dsimp only
              split
              · rfl
              · rfl

theorem settings_failFast (arguments : Arguments) :
  settings (arguments.withOption .failFast "") = settings arguments
  := by
  simp [settings]

theorem perform_failFast_code (world : World) (arguments : Arguments) :
  (perform world (arguments.withOption .failFast "")).code = (perform world arguments).code
  := by
  rw [perform_code, perform_code, exitCode_audited, exitCode_audited (arguments.has .failFast),
    settings_failFast]
  simp

/-- The exit code is the same with an option to stop at the first problem. -/
theorem run_failFast_code (world : World) (arguments : List String) :
  (run world ("--fail-fast" :: arguments)).code = (run world arguments).code
  := by
  rw [run, run, request_failFast]
  cases request arguments with
  | error error => rfl
  | ok asked =>
      cases asked with
      | help => rfl
      | version => rfl
      | audit found => apply perform_failFast_code

/-! ### Audits from the command line -/

/-- The arguments ask for an audit of a subject with some checks. -/
structure Audits (world : World) (arguments : List String) (subject : Subject)
    (kinds : List CheckKind) : Prop where
  /-- The options that the arguments give are resolved, and an audit opens with them. -/
  exists_opening : ∃ found options, request arguments = .ok (.audit found)
    ∧ (Options.resolve world ((found.value? .config).map Path.ofText) (settings found)).result
      = .ok options
    ∧ (Subject.opening world options).result = .ok (subject, kinds)

/-- The exit code is 0 if no check finds anything and this can be shown. -/
theorem run_code {arguments : List String} {found : CheckKind → List Problem}
    (haudits : Audits world arguments subject kinds)
    (h : ∀ kind ∈ kinds, subject.alone world kind = .ok (found kind)) :
  (run world arguments).code
    = if (kinds.flatMap found).isEmpty && (report world subject []).isOk then 0 else 1
  := by
  obtain ⟨given, options, hrequest, hoptions, hopening⟩ := haudits.exists_opening
  have hall : audited world false options = reported world subject (kinds.flatMap found) := by
    rw [audited, hopening]
    change findings subject world kinds false >>= reported world subject = _
    rw [findings, if_neg Bool.false_ne_true, Subject.map_alone h, Subject.foundAll_map_ok,
      List.flatMap_def]
    rfl
  rw [run, hrequest]
  dsimp only
  rw [perform_code, exitCode_audited, hoptions]
  change exitCode (audited world false options) = _
  rw [hall]
  split
  · next hsilent =>
    obtain ⟨hempty, hshown⟩ := Bool.and_eq_true_iff.mp hsilent
    rw [reported_eq_nil_iff.mpr ⟨List.isEmpty_iff.mp hempty, hshown⟩]
    rfl
  · next hsilent =>
    apply exitCode_eq_one (reported_failsUnforeseen _ _ _)
    rwa [ne_eq, reported_eq_nil_iff, ← List.isEmpty_iff, ← Bool.and_eq_true_iff]

/-- A report can be shown if the size of the output can be read, and no bracket that one path leaves
open is closed in the other. -/
theorem report_isOk {columns lines : Option Nat}
    (hcolumns : numberIn? world "COLUMNS" = .ok columns)
    (hlines : numberIn? world "LINES" = .ok lines)
    (hcross : ¬ (Report.EndsOpen subject.readmePath.text.toList
      ∧ Report.BeginsClosed subject.module.path.text.toList))
    (problems : List Problem) :
  (report world subject problems).isOk = true
  := by
  have hwidth : outputWidth world = .ok (columns.getD defaultWidth) := by
    rw [outputWidth, hcolumns, hlines]
    rfl
  have hshown : ∃ text, Report.render (columns.getD defaultWidth) (summary subject) problems
      = .ok text := Report.exists_render _ problems hcross
  obtain ⟨text, htext⟩ := hshown
  rw [report, hwidth]
  change (Report.render (columns.getD defaultWidth) (summary subject) problems).isOk = true
  rw [htext]
  rfl

/-- The checks of an audit do not interfere. In any order, with repetitions, and after any earlier
audits of the same subject, they find one after the other what each finds alone, and the first
problem is the first of these. The exit code is the same whether an audit stops there or not. It is
0 if nothing is found and the report on this can be shown, and otherwise 1. A report can be shown
unless the environment gives a size of the output in digits that cannot be read, or a bracket that
the path of the README leaves open is closed in the path of the module. -/
theorem checks_independent_and_failFast_agrees (world : World) :
  (∀ (subject : Subject) (kinds : List CheckKind) (found : CheckKind → List Problem)
      (calls : List Subject.Call),
    (∀ kind ∈ kinds, subject.alone world kind = .ok (found kind)) →
      ((subject.problems world kinds).outcome (subject.traceAfter world calls)).1
          = .ok (kinds.flatMap found)
        ∧ ((subject.firstProblem? world kinds).outcome (subject.traceAfter world calls)).1
          = .ok (kinds.flatMap found).head?)
    ∧ (∀ arguments, (run world ("--fail-fast" :: arguments)).code = (run world arguments).code)
    ∧ (∀ (arguments : List String) (subject : Subject) (kinds : List CheckKind)
        (found : CheckKind → List Problem),
      Audits world arguments subject kinds →
      (∀ kind ∈ kinds, subject.alone world kind = .ok (found kind)) →
        (run world arguments).code
          = if (kinds.flatMap found).isEmpty && (report world subject []).isOk then 0 else 1)
    ∧ ∀ (subject : Subject) (columns lines : Option Nat),
      numberIn? world "COLUMNS" = .ok columns → numberIn? world "LINES" = .ok lines →
      ¬ (Report.EndsOpen subject.readmePath.text.toList
        ∧ Report.BeginsClosed subject.module.path.text.toList) →
      ∀ problems, (report world subject problems).isOk = true
  := by
  constructor
  · intro subject kinds found calls h
    constructor
    · apply Subject.problems_after h
    · apply Subject.firstProblem?_after h
  · constructor
    · apply run_failFast_code
    · constructor
      · intro arguments subject kinds found haudits h
        apply run_code haudits h
      · intro subject columns lines hcolumns hlines hcross problems
        apply report_isOk hcolumns hlines hcross

/-- A README with an address that cannot be reached, and no other file. -/
def lonelyWorld : World :=
  ⟨.holding "README.md" "See http://a.b\n", [], {}, fun _ => .status 404⟩

/-- Arguments for the checks of the files and of the addresses. -/
def lonelyArguments : List String :=
  ["--readme", "README.md", "--format", "document", "--skip-sections", "--skip-resources",
    "--skip-variables", "--skip-outputs"]

/-- The options that they give. -/
def lonelyOptions : Options :=
  ⟨some (.ofText "/README.md"), some (.ofText "/"), .fixed .document, [], [], [], .module, false,
    ⟨true, false, false, true, true, true⟩⟩

/-- What is audited. -/
def lonelySubject : Subject :=
  ⟨lonelyOptions, .ofText "/README.md", .read "See http://a.b\n" (.fixed .document) [],
    ⟨.ofText "/", .module⟩⟩

/-- What the checks find alone. -/
def lonelyFound : CheckKind → List Problem
  | .files => [.missingFile "outputs.tf", .missingFile "variables.tf", .missingFile "terraform.tf"]
  | .urls => [.badStatus "http://a.b" 404]
  | _ => []

theorem lonely_audits :
  Audits lonelyWorld lonelyArguments lonelySubject [.files, .urls]
  := by
  constructor
  use ⟨[(.readme, "README.md"), (.format, "document"), (.skip .sections, ""),
    (.skip .resources, ""), (.skip .inputs, ""), (.skip .outputs, "")], []⟩, lonelyOptions, rfl
  constructor
  · rw [Options.resolve_result]
    rfl
  · rfl

theorem lonely_alone {kind : CheckKind} (h : kind = .files ∨ kind = .urls) :
  lonelySubject.alone lonelyWorld kind = .ok (lonelyFound kind)
  := by
  rcases h with rfl | rfl
  · rfl
  · have hfind : (Url.find "See http://a.b\n").filter Url.isChecked = ["http://a.b"] := by
      decide +kernel
    have hends := Check.addresses_ends lonelySubject.readme lonelyWorld.respond
    change Ends _ _ (.ok (((Url.find "See http://a.b\n").filter Url.isChecked).filterMap _))
      at hends
    rw [hfind] at hends
    apply hends.result_eq

theorem checks_independent_lonely :
  ((lonelySubject.problems lonelyWorld [.urls, .files, .urls]).outcome
      (lonelySubject.traceAfter lonelyWorld [.first [.files], .all [.urls]])).1
      = .ok ([.urls, .files, .urls].flatMap lonelyFound)
    ∧ ((lonelySubject.firstProblem? lonelyWorld [.urls, .files, .urls]).outcome
      (lonelySubject.traceAfter lonelyWorld [.first [.files], .all [.urls]])).1
      = .ok (some (.badStatus "http://a.b" 404))
    ∧ (run lonelyWorld lonelyArguments).code = 1
    ∧ (run lonelyWorld ("--fail-fast" :: lonelyArguments)).code = 1
  := by
  obtain ⟨hproblems, hfailFast, hcode, -⟩ := checks_independent_and_failFast_agrees lonelyWorld
  have hkinds : ∀ kind ∈ [CheckKind.urls, .files, .urls], kind = .files ∨ kind = .urls := by decide
  obtain ⟨hall, hfirst⟩ := hproblems lonelySubject [.urls, .files, .urls] lonelyFound
    [.first [.files], .all [.urls]] fun kind hkind => lonely_alone (hkinds kind hkind)
  have hrun : (run lonelyWorld lonelyArguments).code = 1 := by
    apply hcode lonelyArguments lonelySubject _ lonelyFound lonely_audits
    intro kind hkind
    apply lonely_alone (List.mem_pair.mp hkind)
  use hall, hfirst, hrun
  rw [hfailFast, hrun]

/-- A README without any content, in a directory whose name is two brackets. -/
def bracketWorld : World :=
  ⟨⟨.directory 4096 [("][", .directory 4096 [("README.md", .file "".toUTF8)])], .ofText "/"⟩, [],
    {}, fun _ => .status 404⟩

/-- Arguments for the check of the addresses. -/
def bracketArguments : List String :=
  ["--readme", "][/README.md", "--format", "document", "--skip-sections", "--skip-files",
    "--skip-resources", "--skip-variables", "--skip-outputs"]

/-- The options that they give. -/
def bracketOptions : Options :=
  ⟨some (.ofText "/][/README.md"), some (.ofText "/]["), .fixed .document, [], [], [], .module,
    false, ⟨true, true, false, true, true, true⟩⟩

/-- What is audited. -/
def bracketSubject : Subject :=
  ⟨bracketOptions, .ofText "/][/README.md", .read "" (.fixed .document) [],
    ⟨.ofText "/][", .module⟩⟩

/-- The check finds nothing, but the summary closes a tag that is not open, and the exit code is not
0. -/
theorem exitCode_bracket :
  Audits bracketWorld bracketArguments bracketSubject [.urls]
    ∧ bracketSubject.alone bracketWorld .urls = .ok []
    ∧ (run bracketWorld bracketArguments).code = 1
    ∧ (run bracketWorld bracketArguments).failure = some .strayTag
  := by
  have haudits : Audits bracketWorld bracketArguments bracketSubject [.urls] := by
    constructor
    use ⟨[(.readme, "][/README.md"), (.format, "document"), (.skip .sections, ""),
      (.skip .files, ""), (.skip .resources, ""), (.skip .inputs, ""), (.skip .outputs, "")], []⟩,
      bracketOptions, rfl
    constructor
    · decide +kernel
    · rfl
  use haudits
  decide +kernel

end CommandLine

end ReadmeAudit
