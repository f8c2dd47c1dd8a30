import ReadmeAudit.Event
import ReadmeAudit.Failure
import ReadmeAudit.Readme.Session

/-!
# Audited computations

The steps of an audit are computations of type `Audit`: they may fail, and they leave a `Trace` of
what they noted and which addresses they requested. The trace is there also after a failure.
-/

namespace ReadmeAudit

/-- What a computation leaves behind. -/
structure Trace where
  /-- What is remembered about the README. -/
  memo : Memo
  /-- The events, the latest first. -/
  events : List Event
  /-- The requested addresses, the latest first. -/
  requests : List String

namespace Trace

/-- The trace of nothing. -/
def empty : Trace := ⟨.empty, [], []⟩

/-- The events, the earliest first. -/
def history (trace : Trace) : List Event :=
  trace.events.reverse

end Trace

/-- A computation that may fail and leaves a trace. -/
abbrev Audit := ExceptT Failure (StateM Trace)

namespace Audit

/-- The outcome of a computation, with the trace that it leaves after a given one. -/
def outcome {α : Type} (audit : Audit α) (trace : Trace) : Except Failure α × Trace :=
  audit.run.run trace

/-- Note an event. -/
def note (event : Event) : Audit Unit :=
  modify fun trace => { trace with events := event :: trace.events }

/-- Note the request of an address. -/
def request (url : String) : Audit Unit :=
  modify fun trace => { trace with requests := url :: trace.requests }

/-- Ask the README, remembering the answer. -/
def ask {α : Type} (query : Session α) : Audit α := do
  let trace ← get
  let (answer, memo) := query.run trace.memo
  set { trace with memo := memo }
  return answer

/-- The result of a step that reports its failure itself. -/
def ofExcept {α : Type} : Except Failure α → Audit α
  | .ok value => return value
  | .error failure => throw failure

end Audit

end ReadmeAudit
