import ReadmeAudit.Proofs.Text.Blank
import ReadmeAudit.Proofs.Text.CaseTable
import ReadmeAudit.Proofs.Text.EditDistance
import ReadmeAudit.Text.Case

/-!
# Texts in lower case

The lower-case form of an ASCII text is made character by character, and so the edit distance of two
such texts is not greater in lower case. Beyond ASCII that need not be so, because a character can
become two. In every text the points stay where they are: no other character becomes one. So what
comes before the first point in lower case is what came before it, if that is ASCII. `Spells` says
that characters are a word when case is ignored, as `afterWord?` finds out.
-/

namespace ReadmeAudit.Text

@[simp]
theorem lower_empty :
  lower "" = ""
  := rfl

/-! ### ASCII -/

/-- A text is ASCII if all its characters are. -/
def IsAscii (text : String) : Prop :=
  ∀ c ∈ text.toList, c.toNat < 0x80

instance (text : String) : Decidable (IsAscii text) :=
  List.decidableBAll (fun c : Char => c.toNat < 0x80) text.toList

/-- A property of the ASCII characters can be tested code point by code point. -/
theorem forall_ascii {P : Char → Prop} (h : ∀ code < 0x80, P (Char.ofNat code)) {c : Char}
    (hc : c.toNat < 0x80) :
  P c
  := by
  rw [← Char.ofNat_toNat c]
  apply h c.toNat hc

theorem lowerChar_of_ascii {c : Char} (h : c.toNat < 0x80) :
  lowerChar c = [c.toLower]
  := by
  apply forall_ascii (P := fun c => lowerChar c = [c.toLower]) _ h
  decide +kernel

/-- ASCII characters are mapped one by one, whatever comes before and after them. -/
theorem lowerAfter_append_of_ascii (seen : List Char) {chars : List Char}
    (h : ∀ c ∈ chars, c.toNat < 0x80) (rest : List Char) :
  lowerAfter seen (chars ++ rest)
    = chars.map Char.toLower ++ lowerAfter (chars.reverse ++ seen) rest
  := by
  induction chars generalizing seen with
  | nil => rfl
  | cons c chars ih =>
      rw [List.forall_mem_cons] at h
      have hsigma : c.toNat ≠ 0x3A3 := by omega
      rw [List.cons_append, lowerAfter, if_neg hsigma, lowerChar_of_ascii h.1, ih (c :: seen) h.2,
        List.reverse_cons, List.append_assoc]
      rfl

theorem lowerAfter_of_ascii (seen : List Char) {chars : List Char}
    (h : ∀ c ∈ chars, c.toNat < 0x80) :
  lowerAfter seen chars = chars.map Char.toLower
  := by
  have hnil := lowerAfter_append_of_ascii seen h []
  rwa [List.append_nil, lowerAfter, List.append_nil] at hnil

/-- The lower-case form of an ASCII text has one character for each character of the text. -/
theorem IsAscii.toList_lower {text : String} (h : IsAscii text) :
  (lower text).toList = text.toList.map Char.toLower
  := by
  rw [lower, String.toList_ofList, lowerAfter_of_ascii [] h]

/-- In lower case, ASCII texts are not further apart. -/
theorem IsAscii.editDistance_lower_le {source target : String} (h : IsAscii source)
    (h' : IsAscii target) :
  editDistance (lower source) (lower target) ≤ editDistance source target
  := by
  rw [editDistance_le_iff, h.toList_lower, h'.toList_lower]
  apply (within_editDistance source target).map

theorem toLower_of_not_ascii {c : Char} (h : ¬ c.toNat < 0x80) :
  c.toLower = c
  := by
  apply dif_neg
  rintro ⟨-, hle⟩
  apply h
  apply Nat.lt_of_le_of_lt (UInt32.le_iff_toNat_le.mp hle)
  decide

theorem isBlank_toLower (c : Char) :
  isBlank c.toLower = isBlank c
  := by
  by_cases hascii : c.toNat < 0x80
  · apply forall_ascii (P := fun c => isBlank c.toLower = isBlank c) _ hascii
    decide +kernel
  · rw [toLower_of_not_ascii hascii]

/-- A trimmed ASCII text is trimmed in lower case. -/
theorem IsAscii.strip_lower {text : String} (h : IsAscii text) (htrimmed : IsTrimmed text) :
  strip (lower text) = lower text
  := by
  rw [strip_eq_self_iff, h.toList_lower, trimChars_map isBlank_toLower,
    strip_eq_self_iff.mp htrimmed.strip_eq]

/-! ### Points -/

theorem point_mem_lowerChar_iff {c : Char} :
  '.' ∈ lowerChar c ↔ '.' = c
  := by
  by_cases hascii : c.toNat < 0x80
  · apply forall_ascii (P := fun c => '.' ∈ lowerChar c ↔ '.' = c) _ hascii
    decide +kernel
  · have hpoint : '.' ≠ c := by
      rintro rfl
      apply hascii (by decide)
    rw [lowerChar, if_neg hascii]
    simp only [hpoint, iff_false]
    split
    · decide
    · have hmap := toNat_lowerMap_apply (Nat.le_of_not_lt hascii)
      rw [List.mem_singleton]
      intro heq
      rw [← heq] at hmap
      revert hmap
      decide

theorem point_mem_lowerAfter_iff {seen chars : List Char} :
  '.' ∈ lowerAfter seen chars ↔ '.' ∈ chars
  := by
  induction chars generalizing seen with
  | nil => rfl
  | cons c rest ih =>
      rw [lowerAfter, List.mem_append, ih, List.mem_cons]
      apply or_congr_left
      split
      · next hsigma =>
        have hpoint : '.' ≠ c := by
          rintro rfl
          revert hsigma
          decide
        simp only [hpoint, iff_false]
        split
        · decide
        · decide
      · apply point_mem_lowerChar_iff

/-- A text has a point exactly if it has one in lower case. -/
@[simp]
theorem point_mem_lower_iff {text : String} :
  '.' ∈ (lower text).toList ↔ '.' ∈ text.toList
  := by
  rw [lower, String.toList_ofList, point_mem_lowerAfter_iff]

/-- What comes before the first point of a text without points is the text. -/
theorem before_point_eq_self {text : String} (h : '.' ∉ text.toList) :
  before '.' text = text
  := by
  rw [before, ← String.toList_inj, String.toList_ofList, List.takeWhile_eq_self_iff]
  intro c hc
  rw [bne_iff_ne]
  rintro rfl
  apply h hc

/-- What comes before the first point in lower case is an ASCII text before it in lower case. -/
theorem IsAscii.before_point_lower
    {front : String} (h : IsAscii front) (hpoint : '.' ∉ front.toList) (tail : String) :
  before '.' (lower (front ++ "." ++ tail)) = lower front
  := by
  have hfront : ∀ c ∈ front.toList.map Char.toLower, (c != '.') = true := by
    rw [← h.toList_lower]
    intro c hc
    rw [bne_iff_ne]
    rintro rfl
    apply hpoint (point_mem_lower_iff.mp hc)
  have hrest : ∀ seen rest,
      lowerAfter seen ('.' :: rest) = '.' :: lowerAfter ('.' :: seen) rest := by
    intro seen rest
    rfl
  have hchars : (front ++ "." ++ tail).toList = front.toList ++ '.' :: tail.toList := by simp
  rw [before, lower, String.toList_ofList, hchars, lowerAfter_append_of_ascii [] h, hrest,
    List.takeWhile_append_of_pos hfront, List.takeWhile_cons_of_neg (by decide), List.append_nil,
    ← h.toList_lower, String.ofList_toList]

/-! ### Words -/

/-- Characters spell a word, given in lower case, if they are its letters when case is ignored. -/
def Spells (word chars : List Char) : Prop :=
  List.Forall₂ (fun letter c => sameLetter letter c = true) word chars

theorem afterWord?_append {word front : List Char} (h : Spells word front) (rest : List Char) :
  afterWord? word (front ++ rest) = some rest
  := by
  induction h with
  | nil => rfl
  | cons hletter hword ih => rw [List.cons_append, afterWord?, if_pos hletter, ih]

theorem exists_of_afterWord? {word chars rest : List Char}
    (h : afterWord? word chars = some rest) :
  ∃ front, Spells word front ∧ chars = front ++ rest
  := by
  fun_induction afterWord? word chars with
  | case1 chars =>
      obtain rfl := Option.some.inj h
      use [], .nil
      rfl
  | case2 letter word c chars hletter ih =>
      obtain ⟨front, hfront, rfl⟩ := ih h
      use c :: front, .cons hletter hfront
      rfl
  | case3 letter word c chars hletter => cases h
  | case4 letter word => cases h

end ReadmeAudit.Text
