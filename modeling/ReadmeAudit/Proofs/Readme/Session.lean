import Mathlib.Data.List.Basic
import ReadmeAudit.Proofs.Text.Blank
import ReadmeAudit.Readme.Session

/-!
# Sessions without a trace

What a session remembers has no influence on its answers. The invariant is that the memo is
`Faithful` to the README: each name that is remembered as present or absent is so, and under the key
of a name stand the sections that it denotes. A query has an answer, `Session.Answers`, if it gives
it in every session with a faithful memo and leaves a faithful memo behind, and each query of a
session has the answer that the README gives without a memo. So in a sequence of queries, each is
answered as if it were the only one.
-/

namespace ReadmeAudit

open Text

/-! ### Names that differ by blanks -/

/-- Blanks around an expected name do not count. -/
theorem SectionName.denotes_strip (observed expected : String) :
  denotes observed (strip expected) = denotes observed expected
  := by
  simp only [denotes, strip_strip]

/-- Names that differ only by blanks around them denote the same sections. -/
theorem Readme.denoted_eq_of_strip_eq
    (readme : Readme) {name other : String} (h : strip name = strip other) :
  readme.denoted name = readme.denoted other
  := by
  have hdenotes : ∀ title, SectionName.denotes title name = SectionName.denotes title other := by
    intro title
    rw [← SectionName.denotes_strip, h, SectionName.denotes_strip]
  simp only [denoted, h, hdenotes]

/-! ### Faithful memos -/

namespace Memo

/-- A memo is faithful to a README if the README gives the answers that it remembers. -/
structure Faithful (readme : Readme) (memo : Memo) : Prop where
  /-- A name is present as it is remembered to be. -/
  present_eq : ∀ name answer, memo.present.lookup name = some answer →
    answer = readme.hasSection name
  /-- Under the key of a name stand the sections that it denotes. -/
  found_eq : ∀ name found, memo.found.lookup (strip name) = some found →
    found = readme.denoted name

variable {readme : Readme} {memo : Memo}

theorem empty_faithful (readme : Readme) :
  empty.Faithful readme
  := by
  constructor
  · intro name answer h
    cases h
  · intro name found h
    cases h

/-- The sections that a name denotes may be remembered under its key. The other names with this
key denote the same sections. -/
theorem Faithful.remember_found (h : memo.Faithful readme) (name : String) :
  Faithful readme { memo with found := (strip name, readme.denoted name) :: memo.found }
  := by
  constructor
  · apply h.present_eq
  · intro other found hfound
    rw [List.lookup_cons] at hfound
    split at hfound
    · next hkey =>
      obtain rfl := Option.some.inj hfound
      apply readme.denoted_eq_of_strip_eq (eq_of_beq hkey).symm
    · apply h.found_eq _ _ hfound

/-- It may be remembered whether a name denotes a section. -/
theorem Faithful.remember_present (h : memo.Faithful readme) (name : String) :
  Faithful readme { memo with present := (name, readme.hasSection name) :: memo.present }
  := by
  constructor
  · intro other answer hanswer
    rw [List.lookup_cons] at hanswer
    split at hanswer
    · next hname =>
      obtain rfl := Option.some.inj hanswer
      rw [eq_of_beq hname]
    · apply h.present_eq _ _ hanswer
  · apply h.found_eq

end Memo

/-! ### Answers -/

namespace Session

/-- A query has an answer if it gives it whatever is remembered, as long as that is faithful to the
README, and keeps it faithful. -/
def Answers {α : Type} (readme : Readme) (query : Session α) (answer : α) : Prop :=
  ∀ memo, memo.Faithful readme →
    (query.run memo).1 = answer ∧ (query.run memo).2.Faithful readme

variable {readme : Readme} {α β : Type}

theorem Answers.pure (answer : α) :
  Answers readme (Pure.pure answer) answer
  := by
  intro memo hmemo
  use rfl
  apply hmemo

/-- The answer of a query that goes on with the answer of another. -/
theorem Answers.bind {query : Session α} {next : α → Session β} {answer : α} {result : β}
    (h : Answers readme query answer) (hnext : Answers readme (next answer) result) :
  Answers readme (query >>= next) result
  := by
  intro memo hmemo
  obtain ⟨rfl, hmemo'⟩ := h memo hmemo
  apply hnext _ hmemo'

/-- The look-up of the sections of a name, from a memo on. -/
theorem denoted_run (name : String) (memo : Memo) :
  (denoted readme name).run memo
    = if (strip name).isEmpty then ([], memo)
      else match memo.found.lookup (strip name) with
        | some found => (found, memo)
        | none => (readme.denoted name,
            { memo with found := (strip name, readme.denoted name) :: memo.found })
  := by
  simp only [denoted]
  generalize readme.denoted name = sections
  generalize strip name = key
  split
  · rfl
  · simp only [StateT.run_bind, StateT.run_get, pure_bind]
    cases memo.found.lookup key with
    | none => rfl
    | some found => rfl

/-- The sections that a name denotes. -/
theorem denoted_answers (name : String) :
  Answers readme (denoted readme name) (readme.denoted name)
  := by
  intro memo hmemo
  rw [denoted_run]
  split
  · next hblank =>
    constructor
    · rw [Readme.denoted, if_pos hblank]
    · apply hmemo
  · split
    · next found hfound =>
      constructor
      · apply hmemo.found_eq _ _ hfound
      · apply hmemo
    · simp only [true_and]
      apply hmemo.remember_found

/-- The sections that each of several names denotes. -/
theorem denotedAll_answers (names : List String) :
  Answers readme (denotedAll readme names) (names.map readme.denoted)
  := by
  induction names with
  | nil => apply Answers.pure
  | cons name names ih =>
      apply Answers.bind (denoted_answers name)
      apply Answers.bind ih
      apply Answers.pure

theorem hasSection_run (name : String) (memo : Memo) :
  (hasSection readme name).run memo
    = match memo.present.lookup name with
      | some answer => (answer, memo)
      | none =>
        let result := (denoted readme name).run memo
        (!result.1.isEmpty,
          { result.2 with present := (name, !result.1.isEmpty) :: result.2.present })
  := by
  simp only [hasSection, StateT.run_bind, StateT.run_get, pure_bind]
  cases memo.present.lookup name with
  | none =>
      simp only [StateT.run_bind]
      generalize (denoted readme name).run memo = result
      rfl
  | some answer => rfl

/-- Whether a name denotes a section. -/
theorem hasSection_answers (name : String) :
  Answers readme (hasSection readme name) (readme.hasSection name)
  := by
  intro memo hmemo
  rw [hasSection_run]
  split
  · next answer hanswer =>
    constructor
    · apply hmemo.present_eq _ _ hanswer
    · apply hmemo
  · obtain ⟨hfound, hafter⟩ := denoted_answers name memo hmemo
    have hanswer : (!(readme.denoted name).isEmpty) = readme.hasSection name := by
      rw [Readme.hasSection]
    simp only [hfound, hanswer, true_and]
    apply hafter.remember_present

/-- Whether one of several names denotes a section. -/
theorem hasAnySection_answers (names : List String) :
  Answers readme (hasAnySection readme names) (names.any readme.hasSection)
  := by
  induction names with
  | nil => apply Answers.pure
  | cons name names ih =>
      apply Answers.bind (hasSection_answers name)
      rw [List.any_cons]
      cases readme.hasSection name with
      | true => apply Answers.pure
      | false => apply ih

/-- The items that the sections of some names document. -/
theorem items_answers (names : List String) :
  Answers readme (items readme names) (readme.items names)
  := by
  apply Answers.bind (denotedAll_answers names)
  apply Answers.pure

/-- The resources and data sources that the README documents. -/
theorem inventory_answers :
  Answers readme (inventory readme) readme.inventory
  := by
  apply Answers.bind (denotedAll_answers ["Resources"])
  apply Answers.pure

/-- The problems of the tables of the sections with contracts. -/
theorem tableProblems_answers :
  Answers readme (tableProblems readme) readme.tableProblems
  := by
  apply Answers.bind (denotedAll_answers (Contract.all.map (·.name)))
  rw [List.map_map, ← List.map_prod_left_eq_zip, List.flatMap_map]
  simp only [Function.comp_apply, Readme.tableProblems]
  apply Answers.pure

end Session

/-! ### Sequences of queries -/

/-- A question about a README. -/
inductive Query where
  /-- Whether a name denotes a section. -/
  | hasSection (name : String)
  /-- The titles of the sections. -/
  | titles
  /-- The items that the sections of some names document. -/
  | items (names : List String)
  /-- The resources and data sources. -/
  | inventory
  /-- The problems of the tables. -/
  | tableProblems

/-- The reply to a question about a README. -/
inductive Reply where
  /-- Whether there is such a section. -/
  | presence (present : Bool)
  /-- The titles. -/
  | titles (titles : List String)
  /-- The items. -/
  | items (items : List String)
  /-- The resources and data sources, or why there are none. -/
  | inventory (found : Except ExtractionError Inventory)
  /-- The problems. -/
  | tableProblems (problems : List Problem)

namespace Query

/-- The query put to a session. -/
def ask (readme : Readme) : Query → Session Reply
  | hasSection name => return .presence (← Session.hasSection readme name)
  | titles => return .titles readme.titles
  | items names => return .items (← Session.items readme names)
  | inventory => return .inventory (← Session.inventory readme)
  | tableProblems => return .tableProblems (← Session.tableProblems readme)

/-- The queries put to one session, one after the other. -/
def askAll (readme : Readme) : List Query → Session (List Reply)
  | [] => return []
  | query :: queries => do
    let reply ← query.ask readme
    let replies ← askAll readme queries
    return reply :: replies

/-- The reply to a query with which a session begins. -/
def alone (readme : Readme) (query : Query) : Reply :=
  ((query.ask readme).run .empty).1

/-- The reply of the README itself, for which nothing is remembered. -/
def reply (readme : Readme) : Query → Reply
  | hasSection name => .presence (readme.hasSection name)
  | titles => .titles readme.titles
  | items names => .items (readme.items names)
  | inventory => .inventory readme.inventory
  | tableProblems => .tableProblems readme.tableProblems

theorem ask_answers (readme : Readme) (query : Query) :
  Session.Answers readme (query.ask readme) (query.reply readme)
  := by
  cases query with
  | hasSection name =>
      apply Session.Answers.bind (Session.hasSection_answers name)
      apply Session.Answers.pure
  | titles => apply Session.Answers.pure
  | items names =>
      apply Session.Answers.bind (Session.items_answers names)
      apply Session.Answers.pure
  | inventory =>
      apply Session.Answers.bind Session.inventory_answers
      apply Session.Answers.pure
  | tableProblems =>
      apply Session.Answers.bind Session.tableProblems_answers
      apply Session.Answers.pure

/-- In one session, each of several queries has the reply of the README itself. -/
theorem askAll_answers (readme : Readme) (queries : List Query) :
  Session.Answers readme (askAll readme queries) (queries.map (reply readme))
  := by
  induction queries with
  | nil => apply Session.Answers.pure
  | cons query queries ih =>
      apply Session.Answers.bind (ask_answers readme query)
      apply Session.Answers.bind ih
      apply Session.Answers.pure

theorem alone_eq_reply (readme : Readme) (query : Query) :
  query.alone readme = query.reply readme
  := (ask_answers readme query .empty (Memo.empty_faithful readme)).1

/-- In a sequence of queries, each has the reply that it has in a session of its own, and that is
the reply of the README itself. -/
theorem askAll_eq_map_alone (readme : Readme) (queries : List Query) :
  ((askAll readme queries).run .empty).1 = queries.map (alone readme)
    ∧ ∀ query : Query, query.alone readme = query.reply readme
  := by
  constructor
  · rw [(askAll_answers readme queries .empty (Memo.empty_faithful readme)).1]
    apply List.map_congr_left
    intro query _
    symm
    apply alone_eq_reply
  · apply alone_eq_reply

end Query

end ReadmeAudit
