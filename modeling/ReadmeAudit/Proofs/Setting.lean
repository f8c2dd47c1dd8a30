import Mathlib.Algebra.Group.Nat.Defs
import Mathlib.Data.List.Basic
import Mathlib.Tactic.Use
import ReadmeAudit.Setting

/-!
# Settings that have no text

There is a text for a setting unless a number in it, at any depth, has too many digits.
`HasLongNumber` says that there is such a number.
-/

namespace ReadmeAudit

open Text

theorem Text.writeNumber_eq_error_iff {number : Int} {error : NumberError} :
  writeNumber number = .error error ↔ error = .unwritable ∧ 10 ^ digitLimit ≤ number.natAbs
  := by
  have hlength : digitLimit < (Nat.toDigits 10 number.natAbs).length
      ↔ 10 ^ digitLimit ≤ number.natAbs := by
    rw [← Nat.not_le, Nat.length_toDigits_le_iff (by decide) (by decide), Nat.not_lt]
  rw [writeNumber, ← hlength]
  split
  · next hlong => simp [hlong, eq_comm]
  · next hlong => simp [hlong]

namespace Setting

/-- There is a number of too many digits in a setting. -/
inductive HasLongNumber : Setting → Prop where
  /-- The setting is such a number. -/
  | integer {value : Int} (le_natAbs : 10 ^ digitLimit ≤ value.natAbs) :
      HasLongNumber (.integer value)
  /-- There is one in an element of a list. -/
  | list {items : List Setting} {item : Setting} (mem : item ∈ items) (h : HasLongNumber item) :
      HasLongNumber (.list items)
  /-- There is one in a field of a table. -/
  | table {fields : List (String × Setting)} {field : String × Setting} (mem : field ∈ fields)
      (h : HasLongNumber field.2) : HasLongNumber (.table fields)

@[simp]
theorem hasLongNumber_integer_iff {value : Int} :
  HasLongNumber (.integer value) ↔ 10 ^ digitLimit ≤ value.natAbs
  := by
  constructor
  · rintro ⟨h⟩
    apply h
  · apply HasLongNumber.integer

@[simp]
theorem hasLongNumber_list_iff {items : List Setting} :
  HasLongNumber (.list items) ↔ ∃ item ∈ items, item.HasLongNumber
  := by
  constructor
  · intro h
    cases h with
    | list hmem h => apply Exists.intro _ ⟨hmem, h⟩
  · rintro ⟨item, hmem, h⟩
    apply HasLongNumber.list hmem h

@[simp]
theorem hasLongNumber_table_iff {fields : List (String × Setting)} :
  HasLongNumber (.table fields) ↔ ∃ field ∈ fields, field.2.HasLongNumber
  := by
  constructor
  · intro h
    cases h with
    | table hmem h => apply Exists.intro _ ⟨hmem, h⟩
  · rintro ⟨field, hmem, h⟩
    apply HasLongNumber.table hmem h

variable {error : NumberError}

/-- A text that is made of another is missing if that one is. -/
theorem map_eq_error_iff {α β : Type} {result : Except NumberError α} {f : α → β} :
  (do return f (← result)) = .error error ↔ result = .error error
  := by
  cases result with
  | ok value =>
      constructor
      · rintro ⟨⟩
      · rintro ⟨⟩
  | error other =>
      constructor
      · rintro ⟨⟩
        rfl
      · rintro ⟨⟩
        rfl

/-- A list of texts is missing if its first text or the list of the others is. -/
theorem cons_eq_error_iff {first : Except NumberError String}
    {others : Except NumberError (List String)} {P Q : Prop}
    (hfirst : ∀ error, first = .error error ↔ error = .unwritable ∧ P)
    (hothers : ∀ error, others = .error error ↔ error = .unwritable ∧ Q) :
  (do return (← first) :: (← others)) = .error error ↔ error = .unwritable ∧ (P ∨ Q)
  := by
  cases first with
  | error other =>
      obtain ⟨rfl, hp⟩ := (hfirst other).mp rfl
      simp only [hp, true_or, and_true]
      constructor
      · rintro ⟨⟩
        rfl
      · rintro rfl
        rfl
  | ok text =>
      have hp : ¬ P := by
        intro hp
        cases (hfirst .unwritable).mpr ⟨rfl, hp⟩
      rw [or_iff_right hp, ← hothers error]
      apply map_eq_error_iff (f := (text :: ·))

mutual

/-- A setting has no text inside a list exactly if there is a number of too many digits in it. -/
theorem literal_eq_error_iff (value : Setting) (error : NumberError) :
  value.literal = .error error ↔ error = .unwritable ∧ value.HasLongNumber
  := by
  cases value with
  | integer value => rw [literal, writeNumber_eq_error_iff, hasLongNumber_integer_iff]
  | list items => rw [literal, map_eq_error_iff, literals_eq_error_iff, hasLongNumber_list_iff]
  | table fields =>
      rw [literal, map_eq_error_iff, fieldLiterals_eq_error_iff, hasLongNumber_table_iff]
  | _ =>
      rw [literal]
      constructor
      · rintro ⟨⟩
      · rintro ⟨-, ⟨⟩⟩

theorem literals_eq_error_iff (items : List Setting) (error : NumberError) :
  literals items = .error error ↔ error = .unwritable ∧ ∃ item ∈ items, item.HasLongNumber
  := by
  cases items with
  | nil => simp [literals]
  | cons item items =>
      rw [literals, cons_eq_error_iff (literal_eq_error_iff item) (literals_eq_error_iff items),
        List.exists_mem_cons_iff]

theorem fieldLiterals_eq_error_iff (fields : List (String × Setting)) (error : NumberError) :
  fieldLiterals fields = .error error
    ↔ error = .unwritable ∧ ∃ field ∈ fields, field.2.HasLongNumber
  := by
  cases fields with
  | nil => simp [fieldLiterals]
  | cons field fields =>
      rw [fieldLiterals, cons_eq_error_iff (fieldLiteral_eq_error_iff field)
        (fieldLiterals_eq_error_iff fields), List.exists_mem_cons_iff]

theorem fieldLiteral_eq_error_iff (field : String × Setting) (error : NumberError) :
  fieldLiteral field = .error error ↔ error = .unwritable ∧ field.2.HasLongNumber
  := by
  cases field with
  | mk name value => rw [fieldLiteral, map_eq_error_iff, literal_eq_error_iff]

end

/-- A setting has no text exactly if there is a number of too many digits in it. -/
theorem asText_eq_error_iff (value : Setting) (error : NumberError) :
  value.asText = .error error ↔ error = .unwritable ∧ value.HasLongNumber
  := by
  cases value with
  | text value =>
      constructor
      · rintro ⟨⟩
      · rintro ⟨-, ⟨⟩⟩
  | moment value =>
      constructor
      · rintro ⟨⟩
      · rintro ⟨-, ⟨⟩⟩
  | _ => apply literal_eq_error_iff

end Setting

end ReadmeAudit
