import Mathlib.Data.List.Basic
import Mathlib.Tactic.Use
import ReadmeAudit.Proofs.Terraform.Pool
import ReadmeAudit.Terraform.Module

/-!
# Scans in parallel and in sequence

Results of scans are put together by `gather`, up to the first failure. It is compatible with
concatenation, so that lists of files may be scanned apart and their results gathered. Hence the
scan of a workspace by a pool is the scan of one list of files, `Module.callerFiles`, one after the
other, for every size of the pool and every schedule.
-/

namespace ReadmeAudit.Terraform

open Files

/-! ### Gathered results -/

@[simp]
theorem join_nil (inventory : Inventory) :
  join inventory ⟨[], []⟩ = inventory
  := by
  simp only [join, List.append_nil]

theorem nil_join (inventory : Inventory) :
  join ⟨[], []⟩ inventory = inventory
  := rfl

theorem join_assoc (first second third : Inventory) :
  join (join first second) third = join first (join second third)
  := by
  simp only [join, List.append_assoc]

@[simp]
theorem gather_ok_cons (first : Inventory) (results : List (Except Failure Inventory)) :
  gather (.ok first :: results) = (gather results).map (join first)
  := by
  rw [gather]
  cases gather results with
  | ok rest => rfl
  | error failure => rfl

@[simp]
theorem gather_error_cons (failure : Failure) (results : List (Except Failure Inventory)) :
  gather (.error failure :: results) = .error failure
  := rfl

theorem map_join_map_join (first second : Inventory) (result : Except Failure Inventory) :
  (result.map (join second)).map (join first) = result.map (join (join first second))
  := by
  cases result with
  | ok third => simp only [Except.map, join_assoc]
  | error failure => rfl

theorem gather_append_of_ok
    {results : List (Except Failure Inventory)} {found : Inventory} (h : gather results = .ok found)
    (others : List (Except Failure Inventory)) :
  gather (results ++ others) = (gather others).map (join found)
  := by
  induction results generalizing found with
  | nil =>
      obtain rfl := Except.ok.inj h
      cases hothers : gather others with
      | ok rest => simp only [List.nil_append, hothers, Except.map, nil_join]
      | error failure => simp only [List.nil_append, hothers, Except.map]
  | cons result results ih =>
      cases result with
      | error failure => cases h
      | ok first =>
          rw [gather_ok_cons] at h
          cases hrest : gather results with
          | error failure =>
              rw [hrest] at h
              cases h
          | ok rest =>
              rw [hrest] at h
              obtain rfl := Except.ok.inj h
              rw [List.cons_append, gather_ok_cons, ih hrest, map_join_map_join]

theorem gather_append_of_error
    {results : List (Except Failure Inventory)} {failure : Failure}
    (h : gather results = .error failure) (others : List (Except Failure Inventory)) :
  gather (results ++ others) = .error failure
  := by
  induction results with
  | nil => cases h
  | cons result results ih =>
      cases result with
      | error first => apply h
      | ok first =>
          rw [gather_ok_cons] at h
          cases hrest : gather results with
          | ok rest =>
              rw [hrest] at h
              cases h
          | error other =>
              rw [hrest] at h
              obtain rfl := Except.error.inj h
              rw [List.cons_append, gather_ok_cons, ih hrest]
              rfl

/-- Results may be gathered list by list. -/
theorem gather_map_gather (lists : List (List (Except Failure Inventory))) :
  gather (lists.map gather) = gather lists.flatten
  := by
  induction lists with
  | nil => rfl
  | cons results lists ih =>
      rw [List.map_cons, List.flatten_cons]
      cases hresults : gather results with
      | ok found => simp [gather_append_of_ok hresults, ih]
      | error failure => simp [gather_append_of_error hresults]

/-- Either there is no failure and all the inventories are put together, or the first failure is
what is gathered. -/
theorem gather_cases (results : List (Except Failure Inventory)) :
  (∃ found : List Inventory, results = found.map .ok
      ∧ gather results = .ok ⟨found.flatMap (·.resources), found.flatMap (·.dataSources)⟩)
    ∨ ∃ (found : List Inventory) (failure : Failure) (others : List (Except Failure Inventory)),
      results = found.map .ok ++ .error failure :: others ∧ gather results = .error failure
  := by
  induction results with
  | nil =>
      apply Or.inl
      use [], rfl
      rfl
  | cons result results ih =>
      cases result with
      | error failure =>
          apply Or.inr
          use [], failure, results, rfl
          rfl
      | ok first =>
          rcases ih with ⟨found, rfl, hgather⟩ | ⟨found, failure, others, rfl, hgather⟩
          · apply Or.inl
            use first :: found, rfl
            rw [gather_ok_cons, hgather]
            rfl
          · apply Or.inr
            use first :: found, failure, others, rfl
            rw [gather_ok_cons, hgather]
            rfl

/-! ### Scans of lists of files -/

variable (files : FileSystem)

theorem scanFiles_eq_gather (paths : List Path) :
  scanFiles files paths = gather (paths.map (scanFile files))
  := by
  induction paths with
  | nil => rfl
  | cons path paths ih => rw [scanFiles, List.map_cons, gather, ih]

theorem scanFiles_flatten (lists : List (List Path)) :
  gather (lists.map (scanFiles files)) = scanFiles files lists.flatten
  := by
  rw [scanFiles_eq_gather, List.map_flatten, ← gather_map_gather, List.map_map]
  congr 1
  apply List.map_congr_left
  intro paths _
  apply scanFiles_eq_gather

/-- A scan under way ends with what it has found and what the files that are left declare. -/
theorem Scan.outcome_eq (left : List Path) (found : Inventory) :
  (Scan.work files).outcome ⟨left, found⟩ = (scanFiles files left).map (join found)
  := by
  induction left generalizing found with
  | nil =>
      have hstep : (Scan.work files).step ⟨[], found⟩ = .done (.ok found) := rfl
      rw [Work.outcome_of_done hstep, scanFiles, Except.map, join_nil]
  | cons path left ih =>
      rw [scanFiles_eq_gather, List.map_cons]
      cases hscan : scanFile files path with
      | ok first =>
          have hstep : (Scan.work files).step ⟨path :: left, found⟩
              = .going ⟨left, join found first⟩ := by
            simp only [work, step, hscan]
          rw [Work.outcome_of_going hstep, ih, gather_ok_cons, map_join_map_join,
            scanFiles_eq_gather]
      | error failure =>
          have hstep : (Scan.work files).step ⟨path :: left, found⟩ = .done (.error failure) := by
            simp only [work, step, hscan]
          rw [Work.outcome_of_done hstep]
          rfl

theorem Scan.outcome_ofPaths (paths : List Path) :
  (Scan.work files).outcome (.ofPaths paths) = scanFiles files paths
  := by
  rw [ofPaths, outcome_eq]
  cases scanFiles files paths with
  | ok found => rw [Except.map, nil_join]
  | error failure => rfl

/-- Either every file can be scanned and the inventories are put together in the order of the files,
or the scan fails like the first file that cannot. -/
theorem scanFiles_cases (paths : List Path) :
  (∃ found : List Inventory, paths.map (scanFile files) = found.map .ok
      ∧ scanFiles files paths
        = .ok ⟨found.flatMap (·.resources), found.flatMap (·.dataSources)⟩)
    ∨ ∃ before path after failure, paths = before ++ path :: after
      ∧ (∀ earlier ∈ before, ∃ found, scanFile files earlier = .ok found)
      ∧ scanFile files path = .error failure ∧ scanFiles files paths = .error failure
  := by
  rw [scanFiles_eq_gather]
  rcases gather_cases (paths.map (scanFile files)) with h | ⟨found, failure, others, hresults, h⟩
  · apply Or.inl h
  · apply Or.inr
    obtain ⟨before, rest, rfl, hbefore, hrest⟩ := List.map_eq_append_iff.mp hresults
    obtain ⟨path, after, rfl, hpath, -⟩ := List.map_eq_cons_iff.mp hrest
    use before, path, after, failure, rfl
    refine ⟨?_, hpath, h⟩
    intro earlier hearlier
    have hmem : scanFile files earlier ∈ found.map Except.ok := by
      rw [← hbefore]
      apply List.mem_map_of_mem hearlier
    obtain ⟨inventory, -, hinventory⟩ := List.mem_map.mp hmem
    use inventory, hinventory.symm

/-! ### Workspaces -/

namespace Module

/-- The files of a workspace in one list: the main file of the caller, then those directly in the
directory of its modules, then those below each directory there. -/
def callerFiles (module : Module) : Except Failure (List Path) :=
  let main := module.callerPath.child "main.tf"
  let directory := module.callerPath.child "modules"
  match files.isDirectory directory with
  | .error fault => .error (.refused fault)
  | .ok false => .ok [main]
  | .ok true =>
    let entries := files.list directory
    .ok ([main] ++ looseFiles directory entries ++ (nestedFiles directory entries).flatten)

/-- There is no list only if the system refuses to tell whether the modules have a directory. -/
theorem callerFiles_eq_error {module : Module} {failure : Failure}
    (h : module.callerFiles files = .error failure) :
  ∃ fault, files.isDirectory (module.callerPath.child "modules") = .error fault
    ∧ failure = .refused fault
  := by
  rw [callerFiles] at h
  cases hdirectory : files.isDirectory (module.callerPath.child "modules") with
  | error fault =>
      simp only [hdirectory] at h
      use fault, rfl, (Except.error.inj h).symm
  | ok there =>
      simp only [hdirectory] at h
      cases there with
      | false => cases h
      | true => cases h

theorem map_flatten_subtrees (module : Module) :
  (module.subtrees files).map List.flatten = module.callerFiles files
  := by
  rw [subtrees, callerFiles]
  cases files.isDirectory (module.callerPath.child "modules") with
  | error fault => rfl
  | ok there =>
      cases there with
      | false => rfl
      | true =>
          dsimp only
          split
          · next hloose =>
            rw [List.isEmpty_iff] at hloose
            simp [Except.map, hloose]
          · simp [Except.map]

/-- The scan by a pool is the scan of one list. -/
theorem scanCaller_eq (module : Module) (size : Workers) (schedule : List Pool.Move) :
  module.scanCaller files size schedule = (module.callerFiles files).bind (scanFiles files)
  := by
  rw [scanCaller, ← map_flatten_subtrees]
  cases module.subtrees files with
  | error failure => rfl
  | ok lists =>
      have hresults : (lists.map Scan.ofPaths).map (Scan.work files).outcome
          = lists.map (scanFiles files) := by
        rw [List.map_map]
        apply List.map_congr_left
        intro paths _
        apply Scan.outcome_ofPaths
      simp only [bind, Except.bind, Except.map]
      rw [Pool.results_eq_map_outcome, hresults, scanFiles_flatten]

/-- For every size of the pool and every schedule, the scan of a workspace has the outcome of the
scan of its files in one list, one after the other: if every file can be scanned, what they declare
in the order of the list, and otherwise the failure of the first that cannot. There is no list only
if the system refuses to tell whether the modules have a directory, and then that is the outcome. -/
theorem scanCaller_sequential (path : Path) (size : Workers) (schedule : List Pool.Move) :
  scan ⟨path, .caller⟩ files = scanCaller ⟨path, .caller⟩ files size schedule
    ∧ ((∃ fault, files.isDirectory ((path.child "caller").child "modules") = .error fault
        ∧ scanCaller ⟨path, .caller⟩ files size schedule = .error (.refused fault))
      ∨ ∃ paths, callerFiles files ⟨path, .caller⟩ = .ok paths
        ∧ scanCaller ⟨path, .caller⟩ files size schedule = scanFiles files paths
        ∧ ((∃ found : List Inventory, paths.map (scanFile files) = found.map .ok
            ∧ scanFiles files paths
              = .ok ⟨found.flatMap (·.resources), found.flatMap (·.dataSources)⟩)
          ∨ ∃ before file after failure, paths = before ++ file :: after
            ∧ (∀ earlier ∈ before, ∃ found, scanFile files earlier = .ok found)
            ∧ scanFile files file = .error failure ∧ scanFiles files paths = .error failure))
  := by
  constructor
  · rw [scan, scanCaller_eq, scanCaller_eq]
  · rw [scanCaller_eq]
    cases hpaths : callerFiles files ⟨path, .caller⟩ with
    | ok paths =>
        apply Or.inr
        use paths, rfl, rfl
        apply scanFiles_cases
    | error failure =>
        apply Or.inl
        obtain ⟨fault, hfault, rfl⟩ := callerFiles_eq_error files hpaths
        use fault, hfault
        rfl

end Module

end ReadmeAudit.Terraform
