import ReadmeAudit.Failure

/-!
# Failures that are not foreseen

The only failures that are foreseen are that the options are wrong. `FailsUnforeseen` says of a
result that it is no such failure. It is compatible with the steps that results come from.
-/

namespace ReadmeAudit

/-- A failure is not foreseen unless it is that the options are wrong. -/
def Failure.IsUnforeseen (failure : Failure) : Prop :=
  ∀ error, failure ≠ .options error

/-- If a result is a failure, it is one that is not foreseen. -/
structure FailsUnforeseen {α : Type} (result : Except Failure α) : Prop where
  /-- A failure is not foreseen. -/
  of_eq : ∀ {failure}, result = .error failure → failure.IsUnforeseen

namespace FailsUnforeseen

variable {α β : Type}

theorem ok (value : α) :
  FailsUnforeseen (.ok value)
  := by
  constructor
  rintro failure ⟨⟩

theorem error {failure : Failure} (h : failure.IsUnforeseen) :
  FailsUnforeseen (.error failure : Except Failure α)
  := by
  constructor
  rintro _ ⟨⟩
  apply h

theorem bind {result : Except Failure α} {next : α → Except Failure β}
    (h : FailsUnforeseen result) (hnext : ∀ value, FailsUnforeseen (next value)) :
  FailsUnforeseen (result >>= next)
  := by
  cases result with
  | error failure => apply error (h.of_eq rfl)
  | ok value => apply hnext value

theorem map {result : Except Failure α} (h : FailsUnforeseen result) (f : α → β) :
  FailsUnforeseen (result.map f)
  := by
  cases result with
  | error failure => apply error (h.of_eq rfl)
  | ok value => apply ok

/-- A number that cannot be read or written is not foreseen. -/
theorem number (result : Except Text.NumberError α) :
  FailsUnforeseen (result.mapError .number)
  := by
  cases result with
  | error failure =>
      apply error
      rintro error ⟨⟩
  | ok value => apply ok

theorem forM {f : α → Except Failure Unit} (h : ∀ value, FailsUnforeseen (f value))
    (values : List α) :
  FailsUnforeseen (values.forM f)
  := by
  induction values with
  | nil => apply ok
  | cons value values ih => apply (h value).bind fun _ => ih

theorem mapM {f : α → Except Failure β} (h : ∀ value, FailsUnforeseen (f value))
    (values : List α) :
  FailsUnforeseen (values.mapM f)
  := by
  induction values with
  | nil => apply ok
  | cons value values ih =>
      rw [List.mapM_cons]
      apply (h value).bind
      intro first
      apply ih.bind
      intro others
      apply ok

end FailsUnforeseen

end ReadmeAudit
