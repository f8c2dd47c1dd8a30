import Mathlib.Data.List.Basic
import Mathlib.Data.List.Perm.Basic
import Mathlib.Tactic.Use
import ReadmeAudit.Proofs.Pairs
import ReadmeAudit.Terraform.Pool

/-!
# What the order of work in a pool cannot change

Every unfinished job of a pool promises the result to which its remaining steps lead, and every
entry of the board keeps such a promise. The moves of a pool change who has promised what, and
never what is promised: `Pool.promises` stays the same up to order. Since the pool can always be
brought on until every job is done, the board then holds what the jobs promised at the beginning,
whatever the size of the pool and whatever the schedule.
-/

namespace ReadmeAudit.Terraform

open scoped List

variable {σ β : Type}

namespace Work

variable {work : Work σ β}

/-- The result of a job whose steps are taken one after the other. -/
def outcome (work : Work σ β) (job : σ) : β :=
  match _h : work.step job with
  | .going rest => work.outcome rest
  | .done result => result
termination_by work.effort job
decreasing_by exact work.effort_lt job rest _h

theorem outcome_of_going {job rest : σ} (h : work.step job = .going rest) :
  work.outcome job = work.outcome rest
  := by
  rw [outcome]
  split
  · next rest' h' =>
    rw [h] at h'
    obtain rfl := Progress.going.inj h'
    rfl
  · next result h' =>
    rw [h] at h'
    cases h'

theorem outcome_of_done {job : σ} {result : β} (h : work.step job = .done result) :
  work.outcome job = result
  := by
  rw [outcome]
  split
  · next rest h' =>
    rw [h] at h'
    cases h'
  · next result' h' =>
    rw [h] at h'
    apply (Progress.done.inj h').symm

end Work

namespace Pool

variable (work : Work σ β)

/-! ### Promises -/

/-- The promise of an unfinished job: its result, under its number. -/
def promise (entry : Nat × σ) : Nat × β :=
  (entry.1, work.outcome entry.2)

/-- The results that a pool has or will have, under their numbers. -/
def promises (pool : Pool σ β) : List (Nat × β) :=
  pool.waiting.map (promise work) ++ (pool.running.map (promise work) ++ pool.board)

theorem promises_start (pool : Pool σ β) :
  pool.start.promises work ~ pool.promises work
  := by
  rw [start]
  split
  · rfl
  · next job waiting hwaiting =>
    split
    · simp only [promises, hwaiting, List.map_append, List.map_cons, List.map_nil,
        List.append_assoc, List.cons_append, List.nil_append]
      rw [← List.append_assoc, ← List.append_assoc]
      apply List.perm_middle
    · rfl

/-- A step of a job leaves its promise as it is, and the end of a job moves it to the board. -/
theorem promises_advance (pool : Pool σ β) (position : Nat) :
  (pool.advance work position).promises work ~ pool.promises work
  := by
  rw [advance]
  split
  · rfl
  · next number job hjob =>
    obtain ⟨hposition, hjob⟩ := List.getElem?_eq_some_iff.mp hjob
    split
    · next rest hstep =>
      have hpromise : promise work (number, rest) = promise work pool.running[position] := by
        rw [hjob, promise, promise, Work.outcome_of_going hstep]
      simp only [promises, List.map_set, hpromise]
      rw [← List.getElem_map (promise work), List.set_getElem_self]
      · rw [List.length_map]
        apply hposition
    · next result hstep =>
      have hpromise : (number, result) = promise work pool.running[position] := by
        rw [hjob, promise, Work.outcome_of_done hstep]
      simp only [promises]
      apply List.Perm.append_left
      rw [hpromise]
      apply List.perm_middle.trans
      rw [← List.cons_append, ← List.map_cons]
      apply List.Perm.append_right
      apply List.Perm.map
      apply List.getElem_cons_eraseIdx_perm

theorem promises_move (pool : Pool σ β) (move : Move) :
  (pool.move work move).promises work ~ pool.promises work
  := by
  cases move with
  | start => apply promises_start
  | advance position => apply promises_advance

theorem promises_foldl (pool : Pool σ β) (schedule : List Move) :
  (schedule.foldl (move work) pool).promises work ~ pool.promises work
  := by
  induction schedule generalizing pool with
  | nil => rfl
  | cons move schedule ih => apply (ih (pool.move work move)).trans (promises_move work pool move)

theorem promises_proceed (moves : Nat) (pool : Pool σ β) :
  (proceed work moves pool).promises work ~ pool.promises work
  := by
  induction moves generalizing pool with
  | zero => rfl
  | succ moves ih => apply (ih _).trans (promises_move work pool _)

/-! ### The end of the work -/

/-- There is always a move that brings a pool on: if no job is under way then a worker is free. -/
theorem effort_move_nextMove (pool : Pool σ β) :
  (pool.move work pool.nextMove).effort work ≤ pool.effort work - 1
  := by
  rcases pool with ⟨size, waiting, running, board⟩
  cases running with
  | nil =>
      cases waiting with
      | nil => apply Nat.le_refl
      | cons job waiting =>
          have hfree : 0 < size.val := size.property
          simp only [nextMove, List.isEmpty_nil, if_true, move, start, List.length_nil, hfree,
            effort, List.nil_append, List.foldr_cons, List.foldr_nil]
          omega
  | cons entry running =>
      rcases entry with ⟨number, job⟩
      cases hstep : work.step job with
      | going rest =>
          have hrest := work.effort_lt job rest hstep
          simp only [nextMove, List.isEmpty_cons, Bool.false_eq_true, if_false, move, advance,
            List.getElem?_cons_zero, hstep, effort, List.set_cons_zero, List.foldr_cons]
          omega
      | done result =>
          simp only [nextMove, List.isEmpty_cons, Bool.false_eq_true, if_false, move, advance,
            List.getElem?_cons_zero, hstep, effort, List.eraseIdx_cons_zero, List.foldr_cons]
          omega

theorem effort_proceed {moves : Nat} {pool : Pool σ β} (h : pool.effort work ≤ moves) :
  (proceed work moves pool).effort work = 0
  := by
  induction moves generalizing pool with
  | zero => apply Nat.le_zero.mp h
  | succ moves ih =>
      apply ih
      have hmove := effort_move_nextMove work pool
      omega

/-- When no effort is left, every promise is on the board. -/
theorem promises_eq_board {pool : Pool σ β} (h : pool.effort work = 0) :
  pool.promises work = pool.board
  := by
  rcases pool with ⟨size, waiting, running, board⟩
  cases waiting with
  | cons entry waiting => simp [effort] at h
  | nil =>
      cases running with
      | cons entry running => simp [effort] at h
      | nil => rfl

/-- The board of a finished pool holds what was promised. -/
theorem board_finish (pool : Pool σ β) :
  (pool.finish work).board ~ pool.promises work
  := by
  rw [finish, ← promises_eq_board work (effort_proceed work (Nat.le_refl _))]
  apply promises_proceed

/-! ### Results -/

/-- The results of some jobs, each under the position of the job. -/
def numbered (jobs : List σ) : Board β :=
  jobs.zipIdx.map fun entry => (entry.2, work.outcome entry.1)

theorem promises_submit (size : Workers) (jobs : List σ) :
  (submit size jobs : Pool σ β).promises work = numbered work jobs
  := by
  simp [promises, submit, promise, numbered]

theorem numbered_numbers_nodup (jobs : List σ) :
  ((numbered work jobs).map Prod.fst).Nodup
  := by
  have hnumbers : (numbered work jobs).map Prod.fst = List.range' 0 jobs.length := by
    rw [numbered, List.map_map, ← List.zipIdx_map_snd]
    rfl
  rw [hnumbers]
  apply List.nodup_range' 1 Nat.one_pos

/-- On a board with the results of some jobs, each job finds its own. -/
theorem lookup_of_perm_numbered {board : Board β} {jobs : List σ}
    (h : board ~ numbered work jobs) {entry : σ × Nat} (hentry : entry ∈ jobs.zipIdx) :
  board.lookup entry.2 = some (work.outcome entry.1)
  := by
  apply Pairs.lookup_eq_some_of_mem
  · rw [(h.map Prod.fst).nodup_iff]
    apply numbered_numbers_nodup
  · rw [h.mem_iff]
    apply List.mem_map.mpr ⟨entry, hentry, rfl⟩

/-- A pool gives the results that its jobs have when they are done one after the other. -/
theorem results_eq_map_outcome (size : Workers) (jobs : List σ) (schedule : List Move) :
  results work size jobs schedule = jobs.map work.outcome
  := by
  have hboard : ((schedule.foldl (move work) (submit size jobs)).finish work).board
      ~ numbered work jobs := by
    rw [← promises_submit work size]
    apply (board_finish work _).trans (promises_foldl work _ schedule)
  rw [results, List.filterMap_congr fun entry hentry => lookup_of_perm_numbered work hboard hentry,
    List.filterMap_eq_map']
  nth_rewrite 2 [← List.zipIdx_map_fst 0 jobs]
  rw [List.map_map]
  rfl

end Pool

end ReadmeAudit.Terraform
