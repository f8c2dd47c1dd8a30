import Mathlib.Data.String.Basic
import ReadmeAudit.Text.Blank
import ReadmeAudit.Text.CaseTable

/-!
# What the case tables say

The tables of the case maps are texts, which are split at blanks and at signs. A text is split at a
character into the pieces that `splitChars` gives of its characters, so that a table can be read by
recursion on lists of characters, line by line. The rules of the map to lower case lead beyond the
signs and the digits of ASCII.
-/

namespace ReadmeAudit.Text

/-! ### Texts that are split -/

theorem splitChars_ne_nil (c : Char) (chars : List Char) :
  splitChars c chars ≠ []
  := by
  fun_cases splitChars c chars with
  | case1 => simp
  | case2 => simp
  | case3 => simp
  | case4 => simp

@[simp]
theorem splitChars_cons_self (c : Char) (rest : List Char) :
  splitChars c (c :: rest) = [] :: splitChars c rest
  := by
  rw [splitChars, if_pos rfl]

theorem splitChars_cons_of_ne {c d : Char} (hne : d ≠ c) {rest first : List Char}
    {others : List (List Char)} (h : splitChars c rest = first :: others) :
  splitChars c (d :: rest) = (d :: first) :: others
  := by
  rw [splitChars, if_neg hne, h]

/-- The splitting of a text from the middle of a piece on, when the part of the piece that has been
read and the pieces before it are known. -/
theorem splitOnAux_eq (c : Char) {rest first : List Char} {others : List (List Char)}
    (h : splitChars c rest = first :: others) (front piece : List Char) (pieces : List String) :
  String.splitOnAux (.ofList (front ++ piece ++ rest)) (.ofList [c])
      ⟨String.utf8Len front⟩ ⟨String.utf8Len front + String.utf8Len piece⟩ 0 pieces
    = pieces.reverse ++ ((piece ++ first) :: others).map String.ofList
  := by
  have hsep : String.Pos.Raw.get (String.ofList [c]) 0 = c := String.get_of_valid [] [c]
  have hnext : String.Pos.Raw.next (String.ofList [c]) 0 = ⟨c.utf8Size⟩ := by
    simpa using String.next_of_valid [] c []
  have hlast : String.Pos.Raw.atEnd (String.ofList [c]) ⟨c.utf8Size⟩ = true := by
    simpa using String.atEnd_of_valid [c] []
  induction rest generalizing front piece first others pieces with
  | nil =>
      obtain ⟨rfl, rfl⟩ := List.cons.inj h
      have hend := (String.atEnd_of_valid (front ++ piece) []).mpr rfl
      rw [String.utf8Len_append] at hend
      rw [String.splitOnAux.eq_1, if_pos hend, String.extract_of_valid]
      simp
  | cons d rest ih =>
      obtain ⟨next, later, hrest⟩ := List.exists_cons_of_ne_nil (splitChars_ne_nil c rest)
      have hend := (String.atEnd_of_valid (front ++ piece) (d :: rest)).not.mpr (by simp)
      have hget := String.get_of_valid (front ++ piece) (d :: rest)
      have hstep := String.next_of_valid (front ++ piece) d rest
      rw [String.utf8Len_append] at hend hget hstep
      rw [String.splitOnAux.eq_1, if_neg hend, hget, hsep, hnext, hstep]
      by_cases heq : d = c
      · subst heq
        rw [splitChars_cons_self, hrest] at h
        obtain ⟨rfl, rfl⟩ := List.cons.inj h
        -- The piece ends ahead of the character, which the position has passed by now.
        have hback : String.Pos.Raw.unoffsetBy
            ⟨String.utf8Len front + String.utf8Len piece + d.utf8Size⟩ ⟨d.utf8Size⟩
            = ⟨String.utf8Len front + String.utf8Len piece⟩ := by
          simp [String.Pos.Raw.unoffsetBy]
        have hih := ih hrest (front ++ piece ++ [d]) [] (String.ofList piece :: pieces)
        simp only [List.headD_cons, beq_self_eq_true, hlast, if_true, hback,
          String.extract_of_valid]
        simpa [-String.ofList_append, -String.ofList_cons, Nat.add_assoc] using hih
      · rw [splitChars_cons_of_ne heq hrest] at h
        obtain ⟨rfl, rfl⟩ := List.cons.inj h
        have hstay : String.Pos.Raw.unoffsetBy
            ⟨String.utf8Len front + String.utf8Len piece⟩ 0
            = ⟨String.utf8Len front + String.utf8Len piece⟩ := by
          simp [String.Pos.Raw.unoffsetBy]
        have hih := ih hrest front (piece ++ [d]) pieces
        simp only [List.headD_cons, beq_iff_eq, heq, if_false, hstay, hstep]
        simpa [-String.ofList_append, -String.ofList_cons, Nat.add_assoc] using hih

/-- A text is split at a character into the pieces between its occurrences. -/
theorem splitOn_ofList (c : Char) (chars : List Char) :
  (String.ofList chars).splitOn (String.ofList [c]) = (splitChars c chars).map String.ofList
  := by
  obtain ⟨first, others, h⟩ := List.exists_cons_of_ne_nil (splitChars_ne_nil c chars)
  have hsep : ¬ (String.ofList [c] == "") = true := by simp
  rw [String.splitOn, if_neg hsep, h]
  apply splitOnAux_eq c h [] [] []

/-! ### Items of a table -/

/-- The interval that a list of characters denotes. -/
def Ranges.ofItemChars (chars : List Char) : Nat × Nat :=
  match splitChars '-' chars with
  | [first, last] => (hexValue first, hexValue last)
  | _ => (hexValue chars, hexValue chars)

theorem Ranges.parseItem_ofList (chars : List Char) :
  parseItem (.ofList chars) = ofItemChars chars
  := by
  have hsplit : (String.ofList chars).splitOn "-" = (splitChars '-' chars).map String.ofList :=
    splitOn_ofList '-' chars
  rw [parseItem, hsplit, ofItemChars, String.toList_ofList]
  rcases splitChars '-' chars with _ | ⟨first, _ | ⟨last, _ | ⟨other, others⟩⟩⟩
  · rfl
  · rfl
  · simp
  · rfl

namespace CaseRule

/-- The rule with the given characters of an interval and shift. -/
def ofIntervalChars (interval : List Char) (shift : Int) : CaseRule :=
  match splitChars '/' interval with
  | [range, step] =>
    let (first, last) := Ranges.ofItemChars range
    ⟨first, last, hexValue step, shift⟩
  | _ =>
    let (first, last) := Ranges.ofItemChars interval
    ⟨first, last, 1, shift⟩

theorem ofInterval_ofList (interval : List Char) (shift : Int) :
  ofInterval (.ofList interval) shift = ofIntervalChars interval shift
  := by
  have hsplit : (String.ofList interval).splitOn "/"
      = (splitChars '/' interval).map String.ofList := splitOn_ofList '/' interval
  rw [ofInterval, hsplit, ofIntervalChars, Ranges.parseItem_ofList]
  rcases splitChars '/' interval with _ | ⟨range, _ | ⟨step, _ | ⟨other, others⟩⟩⟩
  · rfl
  · rfl
  · simp [Ranges.parseItem_ofList]
  · rfl

/-- The rule that the characters of an item of a table denote. -/
def ofItemChars (chars : List Char) : CaseRule :=
  match splitChars '+' chars, splitChars '~' chars with
  | [interval, shift], _ => ofIntervalChars interval (hexValue shift)
  | _, [interval, shift] => ofIntervalChars interval (-(hexValue shift : Int))
  | _, _ => ⟨1, 0, 1, 0⟩

theorem parseItem_ofList (chars : List Char) :
  parseItem (.ofList chars) = ofItemChars chars
  := by
  have hup : (String.ofList chars).splitOn "+" = (splitChars '+' chars).map String.ofList :=
    splitOn_ofList '+' chars
  have hdown : (String.ofList chars).splitOn "~" = (splitChars '~' chars).map String.ofList :=
    splitOn_ofList '~' chars
  rw [parseItem, hup, hdown, ofItemChars]
  generalize splitChars '~' chars = down
  rcases splitChars '+' chars with _ | ⟨interval, _ | ⟨shift, _ | ⟨other, others⟩⟩⟩
  all_goals
    rcases down with _ | ⟨first, _ | ⟨second, _ | ⟨third, rest⟩⟩⟩ <;> simp [ofInterval_ofList]

end CaseRule

/-! ### Lines of a table -/

/-- The rules of a table have a property if those of the items of its first line and of the other
lines have it. -/
theorem CaseMap.all_rules_ofLines {P : CaseRule → Bool} {chars : List Char} {lines : List String}
    (h : (splitChars ' ' chars).all (fun item => P (CaseRule.ofItemChars item)) = true)
    (hlines : (ofLines lines).rules.all P = true) :
  (ofLines (.ofList chars :: lines)).rules.all P = true
  := by
  have hsplit : (String.ofList chars).splitOn " " = (splitChars ' ' chars).map String.ofList :=
    splitOn_ofList ' ' chars
  have hitem : CaseRule.parseItem ∘ String.ofList = CaseRule.ofItemChars :=
    funext CaseRule.parseItem_ofList
  rw [ofLines, List.flatMap_cons, hsplit, List.map_map, hitem, List.all_append, List.all_map,
    Bool.and_eq_true]
  apply And.intro h hlines

/-- The rules of the map to lower case lead beyond the signs and the digits of ASCII. -/
theorem all_rules_lowerMap :
  lowerMap.rules.all (fun rule => decide ((0x40 : Int) < rule.first + rule.shift)) = true
  := by
  rw [lowerMap]
  repeat apply CaseMap.all_rules_ofLines (by decide +kernel)
  rfl

/-- The map to lower case turns no other character into a sign or a digit of ASCII. -/
theorem toNat_lowerMap_apply {c : Char} (h : 0x80 ≤ c.toNat) :
  (lowerMap.apply c).toNat = 0 ∨ 0x40 < (lowerMap.apply c).toNat
  := by
  rw [CaseMap.apply]
  split
  · next rule hrule =>
    have happlies := List.find?_some hrule
    have hshifted := List.all_eq_true.mp all_rules_lowerMap rule (List.mem_of_find?_eq_some hrule)
    simp only [CaseRule.applies, Bool.and_eq_true, decide_eq_true_eq] at happlies hshifted
    rw [Char.ofNat]
    by_cases hvalid : ((c.toNat : Int) + rule.shift).toNat.isValidChar
    · rw [dif_pos hvalid]
      apply Or.inr
      change 0x40 < ((c.toNat : Int) + rule.shift).toNat
      omega
    · rw [dif_neg hvalid]
      apply Or.inl rfl
  · omega

end ReadmeAudit.Text
