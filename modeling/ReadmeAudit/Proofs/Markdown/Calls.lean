import ReadmeAudit.Proofs.Markdown.Outermost

/-!
# The calls of a walk

A walk shows its end and the last state of its visitor, but not which nodes it has visited.
`callsFrom` lists the calls of the visitor, each with the address of the node, the states before and
after, and the answer. That the walk makes exactly these calls is seen with a visitor that keeps a
record of them: `Makes` says that the record shows the calls, one after the other.

The calls are described without looking at the walk: each is made in the state that the one before
has left, at the place that its address leads to, and after all calls that come before it in the
document.
-/

namespace ReadmeAudit.Markdown

/-- Whether an answer leads to the children. -/
def Step.goesOn : Step → Bool
  | descend => true
  | silent => true
  | skip => false
  | stop => false

/-- A call of a visitor with a state of type `σ`. -/
structure Call (σ : Type) where
  /-- The address of the node that is visited. -/
  address : Address
  /-- The node, with the siblings after it. -/
  place : Place
  /-- The state before the call. -/
  state : σ
  /-- The answer. -/
  answer : Step
  /-- The state after the call. -/
  next : σ

variable {σ : Type}

namespace Call

/-- The call as it is seen from above, where the node is at or below the child at a position. -/
def under (index : Nat) (call : Call σ) : Call σ :=
  { call with address := index :: call.address }

/-- What a visitor sees of a call, and its answer. -/
def entry (call : Call σ) : Place × σ × Step :=
  (call.place, call.state, call.answer)

/-- How a walk ends that makes the calls. -/
def ending (calls : List (Call σ)) : Ending :=
  if calls.any (·.answer == .stop) then .stopped else .finished

/-- The state after calls that begin in a state. -/
def stateAfter (state : σ) : List (Call σ) → σ
  | [] => state
  | call :: calls => stateAfter call.next calls

theorem ending_eq_stopped_iff {calls : List (Call σ)} :
  ending calls = .stopped ↔ ∃ call ∈ calls, call.answer = .stop
  := by
  simp [ending]

theorem ending_cons (call : Call σ) (calls : List (Call σ)) :
  ending (call :: calls) = if call.answer = .stop then .stopped else ending calls
  := by
  by_cases h : call.answer = .stop
  · simp [ending, h]
  · simp [ending, h]

@[simp]
theorem ending_append (calls others : List (Call σ)) :
  ending (calls ++ others)
    = match ending calls with
      | .stopped => .stopped
      | .finished => ending others
  := by
  induction calls with
  | nil => rfl
  | cons call calls ih =>
      rw [List.cons_append, ending_cons, ending_cons, ih]
      split
      · rfl
      · rfl

@[simp]
theorem ending_map_under (index : Nat) (calls : List (Call σ)) :
  ending (calls.map (under index)) = ending calls
  := by
  simp [ending, under, Function.comp_def]

@[simp]
theorem stateAfter_append (state : σ) (calls others : List (Call σ)) :
  stateAfter state (calls ++ others) = stateAfter (stateAfter state calls) others
  := by
  induction calls generalizing state with
  | nil => rfl
  | cons call calls ih => apply ih

@[simp]
theorem stateAfter_map_under (index : Nat) (calls : List (Call σ)) (state : σ) :
  stateAfter state (calls.map (under index)) = stateAfter state calls
  := by
  induction calls generalizing state with
  | nil => rfl
  | cons call calls ih => apply ih

@[simp]
theorem entry_under (index : Nat) (call : Call σ) :
  (under index call).entry = call.entry
  := rfl

end Call

mutual

/-- The calls of a visitor by a walk over a node that the given siblings follow. -/
def callsFrom (visit : Visitor σ) (after : List Node) : Node → σ → List (Call σ)
  | .mk kind children, state =>
    let place : Place := ⟨.mk kind children, after⟩
    let (answer, next) := visit place state
    ⟨[], place, state, answer, next⟩
      :: if answer.goesOn then callsAmong visit 0 children next else []

/-- The calls of a visitor by a walk over siblings, of which the first has the given position. -/
def callsAmong (visit : Visitor σ) (index : Nat) : List Node → σ → List (Call σ)
  | [], _ => []
  | node :: rest, state =>
    let calls := callsFrom visit rest node state
    calls.map (Call.under index)
      ++ match Call.ending calls with
        | .stopped => []
        | .finished => callsAmong visit (index + 1) rest (Call.stateAfter state calls)

end

/-- The visitor that keeps a record of its calls, the latest first. -/
def Visitor.recorded (visit : Visitor σ) : Visitor (σ × List (Place × σ × Step)) :=
  fun place (state, record) =>
    let (answer, next) := visit place state
    (answer, (next, (place, state, answer) :: record))

/-- A walk makes calls if it ends as they say, and a record of it shows them. -/
structure Makes (walk : ∀ {τ : Type}, Visitor τ → τ → Ending × τ) (visit : Visitor σ) (state : σ)
    (calls : List (Call σ)) : Prop where
  /-- The walk ends with the calls, in the state after them. -/
  eq : walk visit state = (Call.ending calls, Call.stateAfter state calls)
  /-- The record shows the calls. -/
  recorded_eq : ∀ record, walk visit.recorded (state, record)
    = (Call.ending calls, Call.stateAfter state calls, (calls.map Call.entry).reverse ++ record)

mutual

theorem walkNode_makes (visit : Visitor σ) (after : List Node) :
    ∀ (node : Node) (state : σ),
      Makes (fun visit => walkNode visit after node) visit state (callsFrom visit after node state)
  | .mk kind children, state => by
      rcases hvisit : visit ⟨.mk kind children, after⟩ state with ⟨answer, next⟩
      have hrecorded : ∀ record, visit.recorded ⟨.mk kind children, after⟩ (state, record)
          = (answer, (next, (⟨.mk kind children, after⟩, state, answer) :: record)) := by
        intro record
        rw [Visitor.recorded, hvisit]
      obtain ⟨heq, hbelow⟩ := walkNodes_makes visit 0 children next
      have hrecord : ∀ record, walkNodes visit.recorded children
          (next, (⟨.mk kind children, after⟩, state, answer) :: record)
          = (Call.ending (callsAmong visit 0 children next),
            Call.stateAfter next (callsAmong visit 0 children next),
            ((callsAmong visit 0 children next).map Call.entry).reverse
              ++ [(⟨.mk kind children, after⟩, state, answer)] ++ record) := by
        intro record
        rw [hbelow, List.append_assoc]
        rfl
      rw [callsFrom, hvisit]
      constructor
      · rw [walkNode, hvisit]
        cases answer with
        | stop | skip => rfl
        | descend | silent => apply heq
      · intro record
        rw [walkNode, hrecorded]
        cases answer with
        | stop | skip => rfl
        | descend | silent =>
            dsimp only
            rw [hrecord, ← List.reverse_cons]
            rfl

theorem walkNodes_makes (visit : Visitor σ) (index : Nat) :
    ∀ (nodes : List Node) (state : σ),
      Makes (fun visit => walkNodes visit nodes) visit state (callsAmong visit index nodes state)
  | [], state => by
      rw [callsAmong]
      constructor
      · rw [walkNodes]
        rfl
      · intro record
        rw [walkNodes]
        rfl
  | node :: rest, state => by
      obtain ⟨heq, hrecord⟩ := walkNode_makes visit rest node state
      rw [callsAmong]
      constructor
      · rw [walkNodes, heq]
        cases hending : Call.ending (callsFrom visit rest node state) with
        | stopped => simp [hending]
        | finished =>
            obtain ⟨heq', -⟩ := walkNodes_makes visit (index + 1) rest
              (Call.stateAfter state (callsFrom visit rest node state))
            simp [hending, heq']
      · intro record
        rw [walkNodes, hrecord]
        cases hending : Call.ending (callsFrom visit rest node state) with
        | stopped => simp [hending]
        | finished =>
            obtain ⟨-, hrecord'⟩ := walkNodes_makes visit (index + 1) rest
              (Call.stateAfter state (callsFrom visit rest node state))
            simp [hending, hrecord']

end

/-! ### Where calls are made -/

/-- Calls follow one another: each is made in the state that the one before has left. -/
def Follow (visit : Visitor σ) : (state : σ) → List (Call σ) → Prop
  | _, [] => True
  | state, call :: calls =>
    call.state = state ∧ visit call.place state = (call.answer, call.next)
      ∧ Follow visit call.next calls

theorem follow_append {visit : Visitor σ} {state : σ} {calls others : List (Call σ)} :
  Follow visit state (calls ++ others)
    ↔ Follow visit state calls ∧ Follow visit (Call.stateAfter state calls) others
  := by
  induction calls generalizing state with
  | nil => simp [Follow, Call.stateAfter]
  | cons call calls ih => simp [Follow, Call.stateAfter, ih, and_assoc]

theorem follow_map_under {visit : Visitor σ} {index : Nat} {state : σ} {calls : List (Call σ)} :
  Follow visit state (calls.map (Call.under index)) ↔ Follow visit state calls
  := by
  induction calls generalizing state with
  | nil => rfl
  | cons call calls ih =>
      rw [List.map_cons, Follow, ih]
      rfl

mutual

theorem callsFrom_follow (visit : Visitor σ) (after : List Node) :
    ∀ (node : Node) (state : σ), Follow visit state (callsFrom visit after node state)
  | .mk kind children, state => by
      rw [callsFrom]
      refine ⟨rfl, rfl, ?_⟩
      split
      · apply callsAmong_follow
      · trivial

theorem callsAmong_follow (visit : Visitor σ) (index : Nat) :
    ∀ (nodes : List Node) (state : σ), Follow visit state (callsAmong visit index nodes state)
  | [], state => by
      rw [callsAmong]
      trivial
  | node :: rest, state => by
      rw [callsAmong, follow_append, follow_map_under, Call.stateAfter_map_under]
      use callsFrom_follow visit rest node state
      split
      · trivial
      · apply callsAmong_follow

end

mutual

/-- A call is made at the place that has its address. -/
theorem callsFrom_at? (visit : Visitor σ) (after : List Node) :
    ∀ (node : Node) (state : σ), ∀ call ∈ callsFrom visit after node state,
      Place.at? ⟨node, after⟩ call.address = some call.place
  | .mk kind children, state => by
      intro call hcall
      rw [callsFrom, List.mem_cons] at hcall
      rcases hcall with rfl | hcall
      · rfl
      · split at hcall
        · apply callsAmong_at? visit 0 children _ ⟨.mk kind children, after⟩ rfl call hcall
        · cases hcall

theorem callsAmong_at? (visit : Visitor σ) (index : Nat) :
    ∀ (nodes : List Node) (state : σ) (parent : Place), parent.node.children.drop index = nodes →
      ∀ call ∈ callsAmong visit index nodes state, parent.at? call.address = some call.place
  | [], state => by
      intro parent _ call hcall
      rw [callsAmong] at hcall
      cases hcall
  | node :: rest, state => by
      intro parent hnodes call hcall
      rw [callsAmong, List.mem_append] at hcall
      rcases hcall with hcall | hcall
      · obtain ⟨found, hfound, rfl⟩ := List.mem_map.mp hcall
        have hchild : parent.child? index = some ⟨node, rest⟩ :=
          Place.child?_eq_some_iff.mpr hnodes
        rw [Call.under, Place.at?, hchild]
        apply callsFrom_at? visit rest node state found hfound
      · split at hcall
        · cases hcall
        · apply callsAmong_at? visit (index + 1) rest _ parent _ call hcall
          rw [← List.drop_drop, hnodes]
          rfl

end

/-! ### The order of calls -/

/-- A call comes before another in the order of the document, and does not end the walk. -/
def Call.Before (first second : Call σ) : Prop :=
  first.address.Precedes second.address ∧ first.answer ≠ .stop

theorem exists_eq_cons_of_mem_callsAmong {visit : Visitor σ} {index : Nat} {nodes : List Node}
    {state : σ} {call : Call σ} (h : call ∈ callsAmong visit index nodes state) :
  ∃ position rest, call.address = position :: rest ∧ index ≤ position
  := by
  induction nodes generalizing index state with
  | nil =>
      rw [callsAmong] at h
      cases h
  | cons node nodes ih =>
      rw [callsAmong, List.mem_append, List.mem_map] at h
      rcases h with ⟨call, -, rfl⟩ | h
      · use index, call.address, rfl
      · split at h
        · cases h
        · obtain ⟨position, rest, heq, hle⟩ := ih h
          use position, rest, heq, Nat.le_of_succ_le hle

theorem Call.Before.under {first second : Call σ} (h : first.Before second) (index : Nat) :
  (first.under index).Before (second.under index)
  := by
  use List.Lex.cons h.1, h.2

mutual

/-- Calls are made in the order of the document, and none after the walk is ended. -/
theorem callsFrom_pairwise (visit : Visitor σ) (after : List Node) :
    ∀ (node : Node) (state : σ), (callsFrom visit after node state).Pairwise Call.Before
  | .mk kind children, state => by
      rw [callsFrom, List.pairwise_cons]
      split
      · next hgoes =>
        refine ⟨?_, callsAmong_pairwise visit 0 children _⟩
        intro call hcall
        obtain ⟨position, rest, heq, -⟩ := exists_eq_cons_of_mem_callsAmong hcall
        constructor
        · rw [heq]
          apply List.Lex.nil
        · intro hstop
          dsimp only at hstop
          rw [hstop] at hgoes
          cases hgoes
      · use List.forall_mem_nil _, List.Pairwise.nil

theorem callsAmong_pairwise (visit : Visitor σ) (index : Nat) :
    ∀ (nodes : List Node) (state : σ), (callsAmong visit index nodes state).Pairwise Call.Before
  | [], state => by
      rw [callsAmong]
      apply List.Pairwise.nil
  | node :: rest, state => by
      have hfirst : List.Pairwise Call.Before
          ((callsFrom visit rest node state).map (Call.under index)) := by
        apply (callsFrom_pairwise visit rest node state).map
        intro first second h
        apply h.under index
      rw [callsAmong, List.pairwise_append]
      refine ⟨hfirst, ?_, ?_⟩
      · split
        · apply List.Pairwise.nil
        · apply callsAmong_pairwise
      · intro first hmem second hsecond
        obtain ⟨call, hcall, rfl⟩ := List.mem_map.mp hmem
        split at hsecond
        · cases hsecond
        · next hending =>
          obtain ⟨position, others, heq, hlt⟩ := exists_eq_cons_of_mem_callsAmong hsecond
          constructor
          · rw [heq]
            apply Address.Precedes.cons_cons_iff.mpr (Or.inl hlt)
          · intro hstop
            rw [Call.ending_eq_stopped_iff.mpr ⟨call, hcall, hstop⟩] at hending
            cases hending

end

end ReadmeAudit.Markdown
