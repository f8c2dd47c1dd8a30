import ReadmeAudit.Proofs.Check.Items
import ReadmeAudit.Proofs.Check.Obstacle
import ReadmeAudit.Proofs.Check.Sections
import ReadmeAudit.Proofs.Failure
import ReadmeAudit.Subject

/-!
# Checks that follow one another

The checks of an audit share what is remembered about the README. They are steady nevertheless, so
that each finds what it finds alone. An audit finds all of this, in the order of the checks, and an
audit that stops at the first problem finds the first of it, also after other audits of the same
subject.
-/

namespace ReadmeAudit

open Files Terraform Audit

/-! ### Steady checks -/

namespace Check

variable {readme : Readme}

theorem file_steady (files : FileSystem) (path : Path) :
  Steady readme Failure.IsUnforeseen (file files path)
  := by
  rw [file]
  split
  · apply Steady.throw
    rintro error ⟨⟩
  · apply (Ends.pure _).steady_ok
  · split
    · apply (Ends.pure _).steady_ok
    · apply (note_ends _).steady_ok.bind
      intro _
      apply (Ends.pure _).steady_ok

theorem eachFile_steady (files : FileSystem) (paths : List Path) :
  Steady readme Failure.IsUnforeseen (eachFile files paths)
  := by
  induction paths with
  | nil => apply (Ends.pure _).steady_ok
  | cons path paths ih =>
      apply (file_steady files path).bind
      intro problem
      apply ih.bind
      intro others
      apply (Ends.pure _).steady_ok

theorem forM_request_ends (urls : List String) :
  Ends readme (urls.forM request) (.ok ())
  := by
  induction urls with
  | nil => apply Ends.pure
  | cons url urls ih => apply (request_ends url).bind ih

theorem addresses_ends (readme : Readme) (respond : String → Url.Response) :
  Ends readme (addresses readme respond)
    (.ok (((Url.find readme.source).filter Url.isChecked).filterMap fun url =>
      addressProblem? url (respond url)))
  := by
  rw [addresses]
  split
  · next hempty =>
    rw [List.isEmpty_iff.mp hempty]
    apply Ends.pure
  · apply (note_ends _).bind
    apply (forM_request_ends _).bind
    apply Ends.pure

theorem items_steady (readme : Readme) (module : Module) (files : FileSystem) (type : ItemType) :
  Steady readme Failure.IsUnforeseen (items readme module files type)
  := by
  apply (items_ends_reported items_ends_declaredIn).steady
  rintro _ hfailure error rfl
  apply (declaredIn_understanding _ _ _).ne_options error (eq_error_of_reported_eq_error hfailure)

theorem resources_steady (readme : Readme) (module : Module) (files : FileSystem) :
  Steady readme Failure.IsUnforeseen (resources readme module files)
  := by
  apply resources_ends_reported.steady
  rintro _ hfailure error rfl
  rcases Module.scan_eq_error_iff.mp (eq_error_of_reported_eq_error hfailure) with h | h
  · obtain ⟨fault, hfault⟩ := Module.scannedFiles_eq_error h
    cases hfault
  · obtain ⟨path, -, hpath⟩ := h
    apply (scanFile_understanding files path).ne_options error hpath

end Check

namespace Subject

variable {subject : Subject} {world : World}

/-- What a check finds alone. -/
def alone (subject : Subject) (world : World) (kind : CheckKind) :
    Except Failure (List Problem) :=
  (subject.check world kind).result

/-- Every check is steady, and does not fail because of the options. -/
theorem check_steady (subject : Subject) (world : World) (kind : CheckKind) :
  Steady subject.readme Failure.IsUnforeseen (subject.check world kind)
  := by
  cases kind with
  | sections => apply (Check.sections_ends _ _).steady_ok
  | files => apply Check.eachFile_steady
  | urls => apply (Check.addresses_ends _ _).steady_ok
  | resources => apply Check.resources_steady
  | inputs => apply Check.items_steady
  | outputs => apply Check.items_steady

/-! ### Several checks -/

/-- All that is found, up to the first failure. -/
def foundAll : List (Except Failure (List Problem)) → Except Failure (List Problem)
  | [] => .ok []
  | result :: results => do
    let found ← result
    let others ← foundAll results
    return found ++ others

/-- The first that is found, unless there is a failure before it. -/
def foundFirst : List (Except Failure (List Problem)) → Except Failure (Option Problem)
  | [] => .ok none
  | result :: results => do
    match ← result with
    | problem :: _ => return some problem
    | [] => foundFirst results

theorem problems_ends (subject : Subject) (world : World) (kinds : List CheckKind) :
  Ends subject.readme (subject.problems world kinds) (foundAll (kinds.map (subject.alone world)))
  := by
  induction kinds with
  | nil => apply Ends.pure
  | cons kind kinds ih =>
      apply (check_steady subject world kind).ends.andThen
      intro found
      apply (note_ends _).bind
      apply ih.andThen
      intro others
      apply Ends.pure

theorem firstProblem?_ends (subject : Subject) (world : World) (kinds : List CheckKind) :
  Ends subject.readme (subject.firstProblem? world kinds)
    (foundFirst (kinds.map (subject.alone world)))
  := by
  induction kinds with
  | nil => apply Ends.pure
  | cons kind kinds ih =>
      apply (check_steady subject world kind).ends.andThen
      intro found
      cases found with
      | nil => apply ih
      | cons problem others => apply Ends.pure

variable {results : List (Except Failure (List Problem))}

@[simp]
theorem foundAll_map_ok (founds : List (List Problem)) :
  foundAll (founds.map .ok) = .ok founds.flatten
  := by
  induction founds with
  | nil => rfl
  | cons found founds ih =>
      rw [List.map_cons, foundAll, ih]
      rfl

theorem foundFirst_map_ok (founds : List (List Problem)) :
  foundFirst (founds.map .ok) = .ok founds.flatten.head?
  := by
  induction founds with
  | nil => rfl
  | cons found founds ih =>
      cases found with
      | nil => apply ih
      | cons problem others => rfl

/-- Nothing is found exactly if each check finds nothing. -/
theorem foundAll_eq_nil_iff :
  foundAll results = .ok [] ↔ ∀ result ∈ results, result = .ok []
  := by
  induction results with
  | nil => simp [foundAll]
  | cons result results ih =>
      rw [List.forall_mem_cons, ← ih]
      constructor
      · intro h
        obtain ⟨found, hresult, h⟩ := exists_of_bind_eq_ok h
        obtain ⟨others, hothers, h⟩ := exists_of_bind_eq_ok h
        obtain ⟨rfl, rfl⟩ := List.append_eq_nil_iff.mp (Except.ok.inj h)
        use hresult, hothers
      · rintro ⟨rfl, hothers⟩
        rw [foundAll, hothers]
        rfl

theorem foundFirst_eq_none_iff :
  foundFirst results = .ok none ↔ ∀ result ∈ results, result = .ok []
  := by
  induction results with
  | nil => simp [foundFirst]
  | cons result results ih =>
      rw [List.forall_mem_cons, ← ih]
      constructor
      · intro h
        obtain ⟨found, hresult, h⟩ := exists_of_bind_eq_ok h
        cases found with
        | nil => use hresult, h
        | cons problem others => cases h
      · rintro ⟨rfl, hothers⟩
        apply hothers

/-- A failure is that of one of the checks. -/
theorem mem_of_foundAll_eq_error {failure : Failure} (h : foundAll results = .error failure) :
  .error failure ∈ results
  := by
  induction results with
  | nil => cases h
  | cons result results ih =>
      cases result with
      | error other =>
          cases h
          apply List.mem_cons_self
      | ok found =>
          apply List.mem_cons_of_mem
          apply ih
          cases hothers : foundAll results with
          | error other =>
              rw [foundAll, hothers] at h
              apply h
          | ok others =>
              rw [foundAll, hothers] at h
              cases h

theorem mem_of_foundFirst_eq_error {failure : Failure} (h : foundFirst results = .error failure) :
  .error failure ∈ results
  := by
  induction results with
  | nil => cases h
  | cons result results ih =>
      cases result with
      | error other =>
          cases h
          apply List.mem_cons_self
      | ok found =>
          cases found with
          | nil => apply List.mem_cons_of_mem _ (ih h)
          | cons problem others => cases h

/-! ### One audit after another -/

/-- An audit of a subject, which finds all problems or the first. -/
inductive Call where
  /-- The search for all problems. -/
  | all (kinds : List CheckKind)
  /-- The search for the first problem. -/
  | first (kinds : List CheckKind)

/-- The trace that a call leaves after another trace. -/
def Call.leave (subject : Subject) (world : World) (trace : Trace) : Call → Trace
  | all kinds => ((subject.problems world kinds).outcome trace).2
  | first kinds => ((subject.firstProblem? world kinds).outcome trace).2

/-- The trace that calls leave one after the other. -/
def traceAfter (subject : Subject) (world : World) (calls : List Call) : Trace :=
  calls.foldl (Call.leave subject world) .empty

theorem leave_faithful {trace : Trace} (h : trace.memo.Faithful subject.readme) (call : Call) :
  (call.leave subject world trace).memo.Faithful subject.readme
  := by
  cases call with
  | all kinds =>
      obtain ⟨after, houtcome, hafter⟩ := subject.problems_ends world kinds trace h
      rw [Call.leave, houtcome]
      apply hafter
  | first kinds =>
      obtain ⟨after, houtcome, hafter⟩ := subject.firstProblem?_ends world kinds trace h
      rw [Call.leave, houtcome]
      apply hafter

theorem traceAfter_faithful (subject : Subject) (world : World) (calls : List Call) :
  (subject.traceAfter world calls).memo.Faithful subject.readme
  := by
  have hfoldl : ∀ trace : Trace, trace.memo.Faithful subject.readme →
      (calls.foldl (Call.leave subject world) trace).memo.Faithful subject.readme := by
    induction calls with
    | nil =>
        intro trace h
        apply h
    | cons call calls ih =>
        intro trace h
        apply ih _ (leave_faithful h call)
  apply hfoldl .empty (Memo.empty_faithful subject.readme)

variable {kinds : List CheckKind} {found : CheckKind → List Problem}

theorem map_alone (h : ∀ kind ∈ kinds, subject.alone world kind = .ok (found kind)) :
  kinds.map (subject.alone world) = (kinds.map found).map .ok
  := by
  rw [List.map_map]
  apply List.map_congr_left h

/-- All problems that are found after some calls are those that the checks find alone. -/
theorem problems_after (h : ∀ kind ∈ kinds, subject.alone world kind = .ok (found kind))
    (calls : List Call) :
  ((subject.problems world kinds).outcome (subject.traceAfter world calls)).1
    = .ok (kinds.flatMap found)
  := by
  have hends := subject.problems_ends world kinds
  rw [hends.outcome_fst (subject.traceAfter_faithful world calls), map_alone h, foundAll_map_ok,
    List.flatMap_def]

/-- The first problem that is found after some calls is the first of those that the checks find
alone. -/
theorem firstProblem?_after (h : ∀ kind ∈ kinds, subject.alone world kind = .ok (found kind))
    (calls : List Call) :
  ((subject.firstProblem? world kinds).outcome (subject.traceAfter world calls)).1
    = .ok (kinds.flatMap found).head?
  := by
  have hends := subject.firstProblem?_ends world kinds
  rw [hends.outcome_fst (subject.traceAfter_faithful world calls), map_alone h, foundFirst_map_ok,
    List.flatMap_def]

end Subject

end ReadmeAudit
