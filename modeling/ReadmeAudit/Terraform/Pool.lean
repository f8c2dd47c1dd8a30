/-!
# Pools

A pool works on several jobs at once. Each job is done in steps, and at most as many jobs are under
way as the pool has workers; the others wait in the order of their numbers. Nobody controls which
worker takes the next step, so a pool is run by a schedule, which is any list of moves. The results
are put on a board under the numbers of the jobs, and they are asked for in the order of the jobs
when every job is done.
-/

namespace ReadmeAudit.Terraform

/-- What a step of a job leads to. -/
inductive Progress (σ β : Type) where
  /-- Something is left to do. -/
  | going (rest : σ)
  /-- The job is done. -/
  | done (result : β)

/-- A kind of work, whose jobs are done in steps. -/
structure Work (σ β : Type) where
  /-- The next step of a job. -/
  step : σ → Progress σ β
  /-- A bound on the steps after the next one. -/
  effort : σ → Nat
  /-- A step takes away from the effort that is left. -/
  effort_lt : ∀ job rest, step job = .going rest → effort rest < effort job

/-- The results of the jobs that are done, under their numbers. -/
abbrev Board (β : Type) := List (Nat × β)

/-- A number of workers, of which there is at least one. -/
abbrev Workers := { count : Nat // 0 < count }

/-- A pool at work. -/
structure Pool (σ β : Type) where
  /-- The number of workers. -/
  size : Workers
  /-- The jobs that nobody has begun, under their numbers. -/
  waiting : List (Nat × σ)
  /-- What is left of the jobs that are under way, under their numbers. -/
  running : List (Nat × σ)
  /-- The results. -/
  board : Board β

namespace Pool

variable {σ β : Type}

/-- The number of workers, unless something else is asked for. -/
def defaultSize : Workers :=
  ⟨4, by decide⟩

/-- A pool to which jobs have been submitted. -/
def submit (size : Workers) (jobs : List σ) : Pool σ β :=
  ⟨size, jobs.zipIdx.map fun (job, number) => (number, job), [], []⟩

/-- What happens next in a pool. -/
inductive Move where
  /-- A free worker begins the job that has waited longest. -/
  | start
  /-- A step is taken in one of the jobs under way, given by its position among them. -/
  | advance (position : Nat)
deriving Repr, DecidableEq

/-- The pool after the beginning of a job, if one is waiting and a worker is free. -/
def start (pool : Pool σ β) : Pool σ β :=
  match pool.waiting with
  | [] => pool
  | job :: waiting =>
    if pool.running.length < pool.size.val then
      { pool with waiting := waiting, running := pool.running ++ [job] }
    else pool

/-- The pool after a step in the job at a position, if there is one. -/
def advance (work : Work σ β) (pool : Pool σ β) (position : Nat) : Pool σ β :=
  match pool.running[position]? with
  | none => pool
  | some (number, job) =>
    match work.step job with
    | .going rest => { pool with running := pool.running.set position (number, rest) }
    | .done result =>
      { pool with
        running := pool.running.eraseIdx position
        board := (number, result) :: pool.board }

/-- The pool after a move. -/
def move (work : Work σ β) (pool : Pool σ β) : Move → Pool σ β
  | .start => pool.start
  | .advance position => pool.advance work position

/-- The moves that are left in a pool, at most. -/
def effort (work : Work σ β) (pool : Pool σ β) : Nat :=
  pool.waiting.foldr (fun (_, job) moves => work.effort job + 2 + moves) 0
    + pool.running.foldr (fun (_, job) moves => work.effort job + 1 + moves) 0

/-- A move that brings a pool on. -/
def nextMove (pool : Pool σ β) : Move :=
  if pool.running.isEmpty then .start else .advance 0

/-- The pool after a number of moves that bring it on. -/
def proceed (work : Work σ β) : Nat → Pool σ β → Pool σ β
  | 0, pool => pool
  | moves + 1, pool => proceed work moves (pool.move work pool.nextMove)

/-- The pool when every job is done. -/
def finish (work : Work σ β) (pool : Pool σ β) : Pool σ β :=
  proceed work (pool.effort work) pool

/-- The results of jobs in their order, from a pool that begins by the moves of a schedule. -/
def results (work : Work σ β) (size : Workers) (jobs : List σ) (schedule : List Move) : List β :=
  let pool := (schedule.foldl (move work) (submit size jobs)).finish work
  jobs.zipIdx.filterMap fun (_, number) => pool.board.lookup number

end Pool

end ReadmeAudit.Terraform
