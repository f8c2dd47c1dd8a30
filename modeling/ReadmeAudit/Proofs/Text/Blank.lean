import Mathlib.Data.List.DropRight
import ReadmeAudit.Text.Blank

/-!
# Trimmed texts

Trimming changes nothing in a text whose first and last characters are to be kept. So `strip` is
idempotent, and texts that are trimmed stay so when others are put between them. It leaves nothing
of a text exactly when the text is blank. Cutting a text off at a character is idempotent too. The
pieces between the occurrences of a character do not have it.
-/

namespace ReadmeAudit.Text

/-- Removal from the right end is `List.rdropWhile`. -/
theorem dropRightWhile_eq_rdropWhile (p : Char → Bool) (chars : List Char) :
  dropRightWhile p chars = chars.rdropWhile p
  := rfl

/-- Removal from the right end does not uncover a character with the property at the left
end. -/
theorem dropWhile_dropRightWhile {p : Char → Bool} {chars : List Char}
    (h : chars.dropWhile p = chars) :
  (dropRightWhile p chars).dropWhile p = dropRightWhile p chars
  := by
  obtain ⟨rest, hrest⟩ := List.rdropWhile_prefix p chars
  rw [dropRightWhile_eq_rdropWhile]
  cases hkept : chars.rdropWhile p with
  | nil => rfl
  | cons c kept =>
      have hc : p c = false := by
        rw [hkept] at hrest
        rw [← hrest, List.dropWhile_eq_self_iff] at h
        simpa using h
      simp [hc]

/-- Trimming characters twice is trimming them once. -/
theorem trimChars_trimChars (p : Char → Bool) (chars : List Char) :
  trimChars p (trimChars p chars) = trimChars p chars
  := by
  have h : (chars.dropWhile p).dropWhile p = chars.dropWhile p := List.dropWhile_idempotent p chars
  rw [trimChars, trimChars, dropWhile_dropRightWhile h]
  apply List.rdropWhile_idempotent

theorem dropWhile_eq_self_iff_head? {p : Char → Bool} {chars : List Char} :
  chars.dropWhile p = chars ↔ ∀ c ∈ chars.head?, p c = false
  := by
  cases chars with
  | nil => simp
  | cons c rest => simp [List.dropWhile_eq_self_iff]

/-- Removal from the right end leaves off what has the property, up to the last character that does
not. -/
theorem dropRightWhile_append {p : Char → Bool} {front tail : List Char}
    (hfront : ∀ c ∈ front.getLast?, p c = false) (htail : ∀ c ∈ tail, p c = true) :
  dropRightWhile p (front ++ tail) = front
  := by
  have hreverse : ∀ c ∈ tail.reverse, p c = true := by
    intro c hc
    apply htail c (List.mem_reverse.mp hc)
  have hkept : front.reverse.dropWhile p = front.reverse := by
    rw [dropWhile_eq_self_iff_head?, List.head?_reverse]
    apply hfront
  rw [dropRightWhile, List.reverse_append, List.dropWhile_append_of_pos hreverse, hkept,
    List.reverse_reverse]

/-- What is left by removal from the right end does not end with the property. -/
theorem getLast?_dropRightWhile (p : Char → Bool) (chars : List Char) :
  ∀ c ∈ (dropRightWhile p chars).getLast?, p c = false
  := by
  rw [dropRightWhile, List.getLast?_reverse, ← dropWhile_eq_self_iff_head?,
    List.dropWhile_idempotent]

/-- Nothing is trimmed off characters exactly when the first and the last of them do not have the
property. -/
theorem trimChars_eq_self_iff {p : Char → Bool} {chars : List Char} :
  trimChars p chars = chars
    ↔ (∀ c ∈ chars.head?, p c = false) ∧ ∀ c ∈ chars.getLast?, p c = false
  := by
  rw [← List.head?_reverse, ← dropWhile_eq_self_iff_head?, ← dropWhile_eq_self_iff_head?,
    ← List.reverse_eq_iff, ← dropRightWhile, trimChars]
  constructor
  · intro h
    have hdrop : chars.dropWhile p = chars := by
      apply (List.dropWhile_suffix p).eq_of_length_le
      conv_lhs => rw [← h]
      apply (List.rdropWhile_prefix p _).length_le
    use hdrop
    rwa [hdrop] at h
  · intro ⟨hdrop, hrdrop⟩
    rw [hdrop, hrdrop]

/-- Nothing is trimmed off characters between trimmed ones. -/
theorem trimChars_append {p : Char → Bool} {front tail : List Char}
    (hfront : trimChars p front = front) (hne : front ≠ []) (htail : trimChars p tail = tail)
    (hne' : tail ≠ []) (middle : List Char) :
  trimChars p (front ++ middle ++ tail) = front ++ middle ++ tail
  := by
  rw [trimChars_eq_self_iff] at hfront htail ⊢
  constructor
  · rw [List.append_assoc, List.head?_append_of_ne_nil _ hne]
    apply hfront.1
  · rw [List.getLast?_append_of_ne_nil _ hne']
    apply htail.2

/-- Trimming goes with a change of the characters that makes no difference to the property. -/
theorem trimChars_map {p : Char → Bool} {f : Char → Char} (h : ∀ c, p (f c) = p c)
    (chars : List Char) :
  trimChars p (chars.map f) = (trimChars p chars).map f
  := by
  have hcomp : p ∘ f = p := funext h
  rw [trimChars, dropRightWhile, List.dropWhile_map, ← List.map_reverse, List.dropWhile_map,
    ← List.map_reverse, hcomp]
  rfl

/-- Nothing is left of characters exactly when all of them have the property. -/
theorem trimChars_eq_nil_iff {p : Char → Bool} {chars : List Char} :
  trimChars p chars = [] ↔ ∀ c ∈ chars, p c
  := by
  rw [trimChars, dropRightWhile_eq_rdropWhile, List.rdropWhile_eq_nil_iff]
  constructor
  · intro h
    have hnil : (chars.dropWhile p).dropWhile p = [] := List.dropWhile_eq_nil_iff.mpr h
    rw [List.dropWhile_idempotent] at hnil
    apply List.dropWhile_eq_nil_iff.mp hnil
  · intro h c hc
    apply h c ((List.dropWhile_sublist p).mem hc)

/-- Trimming takes away no character without the property. -/
theorem mem_trimChars_iff {p : Char → Bool} {c : Char} (h : p c = false) {chars : List Char} :
  c ∈ trimChars p chars ↔ c ∈ chars
  := by
  have hdrop : ∀ {chars : List Char}, c ∈ chars.dropWhile p ↔ c ∈ chars := by
    intro chars
    constructor
    · apply (List.dropWhile_sublist p).mem
    · intro hc
      rw [← List.takeWhile_append_dropWhile (p := p) (l := chars), List.mem_append] at hc
      apply hc.resolve_left
      intro htake
      rw [List.mem_takeWhile_imp htake] at h
      cases h
  rw [trimChars, dropRightWhile, List.mem_reverse, hdrop, List.mem_reverse, hdrop]

/-- Stripping a text takes away no character that is not blank. -/
theorem mem_strip_iff {c : Char} (h : isBlank c = false) {text : String} :
  c ∈ (strip text).toList ↔ c ∈ text.toList
  := by
  rw [strip, trim, String.toList_ofList, mem_trimChars_iff h]

/-- Stripping a text twice is stripping it once. -/
@[simp]
theorem strip_strip (text : String) :
  strip (strip text) = strip text
  := by
  rw [strip, strip, trim, trim, String.toList_ofList, trimChars_trimChars]

/-- A text is trimmed if it is not empty and neither begins nor ends with a blank character. -/
structure IsTrimmed (text : String) : Prop where
  /-- There are no blank characters around it. -/
  strip_eq : strip text = text
  /-- There is something left. -/
  ne_empty : text ≠ ""

theorem strip_eq_self_iff {text : String} :
  strip text = text ↔ trimChars isBlank text.toList = text.toList
  := by
  rw [strip, trim, ← String.toList_inj, String.toList_ofList]

/-- A text that begins and ends with trimmed texts is trimmed. -/
theorem IsTrimmed.append {front tail : String} (hfront : IsTrimmed front) (htail : IsTrimmed tail)
    (middle : String) :
  IsTrimmed (front ++ middle ++ tail)
  := by
  have hne : front.toList ≠ [] := by simpa using hfront.ne_empty
  have hne' : tail.toList ≠ [] := by simpa using htail.ne_empty
  constructor
  · rw [strip_eq_self_iff, String.toList_append, String.toList_append]
    apply trimChars_append (strip_eq_self_iff.mp hfront.strip_eq) hne
      (strip_eq_self_iff.mp htail.strip_eq) hne' middle.toList
  · intro hempty
    apply hne'
    rw [← String.toList_inj, String.toList_append, String.toList_append] at hempty
    apply (List.append_eq_nil_iff.mp hempty).2

/-- Nothing is left of a text by stripping exactly when it is blank. -/
theorem strip_isEmpty (text : String) :
  (strip text).isEmpty = isBlankText text
  := by
  rw [Bool.eq_iff_iff, String.isEmpty_iff, isBlankText, List.all_eq_true, ← trimChars_eq_nil_iff]
  rw [strip, trim, ← String.toList_inj, String.toList_ofList]
  rfl

/-- A stripped text is blank exactly when the text is. -/
@[simp]
theorem isBlankText_strip (text : String) :
  isBlankText (strip text) = isBlankText text
  := by
  rw [← strip_isEmpty, strip_strip, strip_isEmpty]

/-- What comes before the first of a character has none. -/
@[simp]
theorem before_before (c : Char) (text : String) :
  before c (before c text) = before c text
  := by
  rw [before, before, String.toList_ofList, List.takeWhile_idem]

/-! ### Pieces -/

/-- What characters begin with up to one without the property does not depend on what comes from
there on. -/
theorem takeWhile_append_cons {p : Char → Bool} {c : Char} (h : p c = false)
    (chars rest : List Char) :
  (chars ++ c :: rest).takeWhile p = chars.takeWhile p
  := by
  induction chars with
  | nil => simp [h]
  | cons first chars ih => rw [List.cons_append, List.takeWhile_cons, List.takeWhile_cons, ih]

theorem dropWhile_append_cons {p : Char → Bool} {c : Char} (h : p c = false)
    (chars rest : List Char) :
  (chars ++ c :: rest).dropWhile p = chars.dropWhile p ++ c :: rest
  := by
  induction chars with
  | nil => simp [h]
  | cons first chars ih =>
      rw [List.cons_append, List.dropWhile_cons, List.dropWhile_cons, ih]
      cases p first with
      | true => rfl
      | false => rfl

/-- No piece has a character of those where characters are split. -/
theorem eq_false_of_mem_splitOnP {p : Char → Bool} {chars piece : List Char}
    (h : piece ∈ chars.splitOnP p) :
  ∀ c ∈ piece, p c = false
  := by
  induction chars generalizing piece with
  | nil =>
      rw [List.splitOnP_nil, List.mem_singleton] at h
      simp [h]
  | cons first chars ih =>
      obtain ⟨next, others, hpieces⟩ := List.exists_cons_of_ne_nil (List.splitOnP_ne_nil p chars)
      rw [hpieces] at ih
      rw [List.splitOnP_cons_eq_if_modifyHead, hpieces] at h
      cases hfirst : p first with
      | true =>
          rw [if_pos hfirst, List.mem_cons] at h
          rcases h with rfl | h
          · rintro c ⟨⟩
          · apply ih h
      | false =>
          rw [if_neg (by simp [hfirst]), List.modifyHead_cons, List.mem_cons] at h
          rcases h with rfl | h
          · intro c hc
            rcases List.mem_cons.mp hc with rfl | hc
            · apply hfirst
            · apply ih List.mem_cons_self c hc
          · apply ih (List.mem_cons_of_mem next h)

theorem splitChars_eq_splitOn (c : Char) (chars : List Char) :
  splitChars c chars = chars.splitOn c
  := by
  induction chars with
  | nil => rfl
  | cons first chars ih =>
      rw [splitChars, List.splitOn_cons_eq_if_modifyHead, ih]
      by_cases h : first = c
      · simp [h]
      · obtain ⟨next, others, hpieces⟩ := List.exists_cons_of_ne_nil (List.splitOn_ne_nil c chars)
        simp [h, hpieces]

/-- Pieces have no character of that at which characters are split. -/
theorem not_mem_of_mem_splitChars {c : Char} {chars piece : List Char}
    (h : piece ∈ splitChars c chars) :
  c ∉ piece
  := by
  rw [splitChars_eq_splitOn, List.splitOn_eq_splitOnP] at h
  intro hc
  simpa using eq_false_of_mem_splitOnP h c hc

/-- A character other than the one between them is in joined pieces if it is in one of them. -/
theorem mem_intercalate_iff {c d : Char} (h : c ≠ d) {pieces : List (List Char)} :
  c ∈ [d].intercalate pieces ↔ ∃ piece ∈ pieces, c ∈ piece
  := by
  induction pieces with
  | nil => simp
  | cons piece pieces ih =>
      cases pieces with
      | nil => simp
      | cons next pieces => simp [List.intercalate_cons_cons, h, ih]

end ReadmeAudit.Text
