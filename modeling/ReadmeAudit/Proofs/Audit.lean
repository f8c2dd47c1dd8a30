import ReadmeAudit.Proofs.Readme.Session
import ReadmeAudit.Trace

/-!
# How audited computations end

What a computation ends with is its value or its failure. `Audit.Ends` says that a computation ends
in the same way after every trace whose memo is faithful to the README, and leaves such a trace
behind. It is compatible with the steps that computations are made of, so that how a check ends can
be read off its definition.
-/

namespace ReadmeAudit

/-- The trace of an audit in which some queries have been put to the README. -/
def Trace.afterQueries (readme : Readme) (queries : List Query) (events : List Event)
    (requests : List String) : Trace :=
  ⟨((Query.askAll readme queries).run .empty).2, events, requests⟩

theorem Trace.afterQueries_faithful (readme : Readme) (queries : List Query) (events : List Event)
    (requests : List String) :
  (afterQueries readme queries events requests).memo.Faithful readme
  := (Query.askAll_answers readme queries .empty (Memo.empty_faithful readme)).2

/-- Two steps succeed only one after the other. -/
theorem exists_of_bind_eq_ok {α β : Type} {step : Except Failure α} {next : α → Except Failure β}
    {value : β} (h : step >>= next = .ok value) :
  ∃ middle, step = .ok middle ∧ next middle = .ok value
  := by
  cases step with
  | error failure => cases h
  | ok middle => use middle, rfl, h

namespace Audit

/-- A computation ends with a result if it does so whatever the trace before it, as long as that
remembers the README faithfully, and keeps it faithful. -/
def Ends {α : Type} (readme : Readme) (audit : Audit α) (result : Except Failure α) : Prop :=
  ∀ trace, trace.memo.Faithful readme →
    ∃ after, audit.outcome trace = (result, after) ∧ after.memo.Faithful readme

/-- What a computation ends with if nothing was done before it. -/
def result {α : Type} (audit : Audit α) : Except Failure α :=
  (audit.outcome .empty).1

variable {readme : Readme} {α β : Type}

theorem Ends.outcome_fst {audit : Audit α} {result : Except Failure α}
    (h : Ends readme audit result) {trace : Trace} (htrace : trace.memo.Faithful readme) :
  (audit.outcome trace).1 = result
  := by
  obtain ⟨after, houtcome, -⟩ := h trace htrace
  rw [houtcome]

theorem Ends.result_eq {audit : Audit α} {result : Except Failure α}
    (h : Ends readme audit result) :
  audit.result = result
  := h.outcome_fst (Memo.empty_faithful readme)

@[simp]
theorem outcome_bind (audit : Audit α) (next : α → Audit β) (trace : Trace) :
  (audit >>= next).outcome trace
    = match audit.outcome trace with
      | (.ok value, after) => (next value).outcome after
      | (.error failure, after) => (.error failure, after)
  := by
  rw [outcome, outcome, ExceptT.run_bind, StateT.run_bind]
  rcases h : StateT.run audit.run trace with ⟨result, after⟩
  cases result with
  | ok value => rfl
  | error failure => rfl

theorem Ends.pure (value : α) :
  Ends readme (Pure.pure value) (.ok value)
  := by
  intro trace htrace
  use trace, rfl

theorem Ends.throw (failure : Failure) :
  Ends (α := α) readme (MonadExcept.throw failure) (.error failure)
  := by
  intro trace htrace
  use trace, rfl

/-- A computation goes on after a step that ends with a value. -/
theorem Ends.bind {audit : Audit α} {next : α → Audit β} {value : α} {result : Except Failure β}
    (h : Ends readme audit (.ok value)) (hnext : Ends readme (next value) result) :
  Ends readme (audit >>= next) result
  := by
  intro trace htrace
  obtain ⟨after, houtcome, hafter⟩ := h trace htrace
  rw [outcome_bind, houtcome]
  apply hnext after hafter

/-- A computation ends at a step that fails. -/
theorem Ends.bind_error {audit : Audit α} {failure : Failure}
    (h : Ends readme audit (.error failure)) (next : α → Audit β) :
  Ends readme (audit >>= next) (.error failure)
  := by
  intro trace htrace
  obtain ⟨after, houtcome, hafter⟩ := h trace htrace
  use after
  rw [outcome_bind, houtcome]
  use rfl

/-- A computation goes on after a step as the result of the step says. -/
theorem Ends.andThen {audit : Audit α} {next : α → Audit β} {result : Except Failure α}
    {onward : α → Except Failure β} (h : Ends readme audit result)
    (hnext : ∀ value, Ends readme (next value) (onward value)) :
  Ends readme (audit >>= next) (result >>= onward)
  := by
  cases result with
  | ok value => apply h.bind (hnext value)
  | error failure => apply h.bind_error next

theorem Ends.map {audit : Audit α} {result : Except Failure α} (h : Ends readme audit result)
    (f : α → β) :
  Ends readme (audit >>= fun value => Pure.pure (f value)) (result.map f)
  := by
  cases result with
  | ok value => apply h.bind (Ends.pure (f value))
  | error failure => apply h.bind_error

@[simp]
theorem outcome_tryCatch (audit : Audit α) (handler : Failure → Audit α) (trace : Trace) :
  (tryCatch audit handler).outcome trace
    = match audit.outcome trace with
      | (.ok value, after) => (.ok value, after)
      | (.error failure, after) => (handler failure).outcome after
  := by
  rw [outcome, outcome, ExceptT.run_tryCatch, StateT.run_bind]
  rcases h : StateT.run audit.run trace with ⟨result, after⟩
  cases result with
  | ok value => rfl
  | error failure => rfl

/-- There is nothing to catch of a computation that ends with a value. -/
theorem Ends.tryCatch {audit : Audit α} {value : α} (h : Ends readme audit (.ok value))
    (handler : Failure → Audit α) :
  Ends readme (MonadExcept.tryCatch audit handler) (.ok value)
  := by
  intro trace htrace
  obtain ⟨after, houtcome, hafter⟩ := h trace htrace
  use after
  rw [outcome_tryCatch, houtcome]
  use rfl

/-- A failure that is caught is handled. -/
theorem Ends.tryCatch_error {audit : Audit α} {handler : Failure → Audit α} {failure : Failure}
    {result : Except Failure α} (h : Ends readme audit (.error failure))
    (hhandler : Ends readme (handler failure) result) :
  Ends readme (MonadExcept.tryCatch audit handler) result
  := by
  intro trace htrace
  obtain ⟨after, houtcome, hafter⟩ := h trace htrace
  rw [outcome_tryCatch, houtcome]
  apply hhandler after hafter

theorem note_ends (event : Event) :
  Ends readme (note event) (.ok ())
  := by
  intro trace htrace
  use { trace with events := event :: trace.events }, rfl

/-- A question to the README is answered as by the README itself. -/
theorem ask_ends {query : Session α} {answer : α} (h : Session.Answers readme query answer) :
  Ends readme (ask query) (.ok answer)
  := by
  intro trace htrace
  obtain ⟨hanswer, hmemo⟩ := h trace.memo htrace
  use { trace with memo := (query.run trace.memo).2 }
  rw [← hanswer]
  use rfl

theorem ofExcept_ends (result : Except Failure α) :
  Ends readme (ofExcept result) result
  := by
  cases result with
  | ok value => apply Ends.pure
  | error failure => apply Ends.throw

/-- A result that is passed on is what a computation ends with. -/
theorem ofExcept_bind_ends {next : α → Audit α} (h : ∀ value, Ends readme (next value) (.ok value))
    (result : Except Failure α) :
  Ends readme (ofExcept result >>= next) result
  := by
  cases result with
  | ok value => apply Ends.bind (ofExcept_ends _) (h value)
  | error failure => apply Ends.bind_error (ofExcept_ends _)

theorem request_ends (url : String) :
  Ends readme (request url) (.ok ())
  := by
  intro trace htrace
  use { trace with requests := url :: trace.requests }, rfl

/-- A computation is steady if it always ends in the same way. If it fails, then the failure has a
property. -/
structure Steady (readme : Readme) (P : Failure → Prop) (audit : Audit α) : Prop where
  /-- The computation always ends as it does if nothing was done before it. -/
  ends : Ends readme audit audit.result
  /-- The failures have the property. -/
  of_result : ∀ failure, audit.result = .error failure → P failure

variable {P : Failure → Prop}

theorem Ends.steady {audit : Audit α} {result : Except Failure α} (h : Ends readme audit result)
    (hfailure : ∀ failure, result = .error failure → P failure) :
  Steady readme P audit
  := by
  constructor
  · rw [h.result_eq]
    apply h
  · rw [h.result_eq]
    apply hfailure

theorem Ends.steady_ok {audit : Audit α} {value : α} (h : Ends readme audit (.ok value)) :
  Steady readme P audit
  := by
  apply h.steady
  rintro failure ⟨⟩

theorem Steady.throw {failure : Failure} (h : P failure) :
  Steady (α := α) readme P (MonadExcept.throw failure)
  := by
  apply (Ends.throw failure).steady
  rintro other ⟨⟩
  apply h

/-- A computation is steady if its steps are. -/
theorem Steady.bind {audit : Audit α} {next : α → Audit β} (h : Steady readme P audit)
    (hnext : ∀ value, Steady readme P (next value)) :
  Steady readme P (audit >>= next)
  := by
  apply (h.ends.andThen fun value => (hnext value).ends).steady
  intro failure hfailure
  cases hresult : audit.result with
  | error other =>
      rw [hresult] at hfailure
      cases hfailure
      apply h.of_result failure hresult
  | ok value =>
      rw [hresult] at hfailure
      apply (hnext value).of_result failure hfailure

end Audit

end ReadmeAudit
