import Mathlib.Data.List.DropRight
import Mathlib.Tactic.Use
import ReadmeAudit.Proofs.Distinct
import ReadmeAudit.Proofs.Text.Blank
import ReadmeAudit.Url

/-!
# Where addresses stand

A delimiter cuts a text into parts that are searched one by one. In a piece without delimiters there
is at most one address: it begins where a scheme first has something after it, and ends with the
piece, up to punctuation. These `Laws` determine `Url.find`. An address that is found is an address
by itself, except for a scheme that only punctuation follows: the scheme is found without it, though
nothing is found in the scheme.
-/

namespace ReadmeAudit.Url

open Text

variable {chars tail : List Char} {c : Char}

/-! ### Delimiters -/

theorem isInner_eq_false_iff :
  isInner c = false ↔ isDelimiter c = true
  := by
  rw [isInner, Bool.not_eq_false']

theorem isInner_of_mem_scheme {scheme : List Char} (h : scheme ∈ schemes) (hc : c ∈ scheme) :
  isInner c = true
  := by
  have hall : schemes.all (·.all isInner) = true := by decide
  simp only [List.all_eq_true] at hall
  apply hall scheme h c hc

theorem begins_iff :
  begins chars = true
    ↔ ∃ scheme ∈ schemes, ∃ c rest, chars = scheme ++ c :: rest ∧ isInner c = true
  := by
  simp only [begins, List.any_eq_true, Bool.and_eq_true, List.isPrefixOf_iff_prefix,
    Option.any_eq_true]
  apply exists_congr
  intro scheme
  apply and_congr_right
  intro hscheme
  constructor
  · rintro ⟨⟨rest, rfl⟩, c, hc, hinner⟩
    rw [List.drop_left, List.head?_eq_some_iff] at hc
    obtain ⟨rest, rfl⟩ := hc
    use c, rest
  · rintro ⟨c, rest, rfl, hinner⟩
    use List.prefix_append _ _, c
    rw [List.drop_left]
    use rfl

/-- Whether an address begins does not depend on what comes from a delimiter on. -/
theorem begins_append (h : isDelimiter c = true) (chars rest : List Char) :
  begins (chars ++ c :: rest) = begins chars
  := by
  have hc : isInner c = false := isInner_eq_false_iff.mpr h
  rw [Bool.eq_iff_iff, begins_iff, begins_iff]
  constructor
  · rintro ⟨scheme, hscheme, d, others, heq, hd⟩
    have hne : c ≠ d := by
      rintro rfl
      rw [hc] at hd
      cases hd
    rcases List.append_eq_append_iff.mp heq with ⟨between, rfl, hrest⟩ | ⟨between, rfl, hrest⟩
    · -- The delimiter would be in the scheme or right after it.
      cases between with
      | nil => apply absurd (List.cons.inj hrest).1 hne
      | cons first between =>
          obtain ⟨rfl, -⟩ := List.cons.inj hrest
          rw [isInner_of_mem_scheme hscheme (by simp)] at hc
          cases hc
    · cases between with
      | nil => apply absurd (List.cons.inj hrest).1.symm hne
      | cons first between =>
          obtain ⟨rfl, -⟩ := List.cons.inj hrest
          use scheme, hscheme, d, between
  · rintro ⟨scheme, hscheme, d, others, rfl, hd⟩
    use scheme, hscheme, d, others ++ c :: rest
    simp [hd]

/-- The addresses on both sides of a delimiter are those of the two sides. -/
theorem scan_append (h : isDelimiter c = true) (chars rest : List Char) :
  scan (chars ++ c :: rest) = scan chars ++ scan rest
  := by
  have hc : isInner c = false := isInner_eq_false_iff.mpr h
  fun_induction scan chars with
  | case1 =>
      have hbegins := begins_append h [] rest
      rw [List.nil_append] at hbegins ⊢
      rw [scan, hbegins]
      rfl
  | case2 first others hbegins ih =>
      rw [List.cons_append, scan, ← List.cons_append, begins_append h, if_pos hbegins,
        takeWhile_append_cons hc, dropWhile_append_cons hc, ih, List.cons_append]
  | case3 first others hbegins ih =>
      rw [List.cons_append, scan, ← List.cons_append, begins_append h, if_neg hbegins, ih]

theorem toList_cut (text rest : String) (c : Char) :
  (text ++ String.singleton c ++ rest).toList = text.toList ++ c :: rest.toList
  := by
  simp

theorem find_cut (h : isDelimiter c = true) (text rest : String) :
  find (text ++ String.singleton c ++ rest) = (find text ++ find rest).eraseDups
  := by
  rw [find, toList_cut, scan_append h, List.map_append]
  apply (eraseDups_append_eraseDups _ _).symm

/-! ### Pieces -/

/-- Characters of which none is a delimiter. -/
def Unbroken (chars : List Char) : Prop :=
  ∀ c ∈ chars, isDelimiter c = false

theorem Unbroken.isInner (h : Unbroken chars) :
  ∀ c ∈ chars, isInner c = true
  := by
  intro c hc
  rw [Url.isInner, h c hc]
  rfl

theorem Unbroken.of_suffix (h : Unbroken chars) (htail : tail <:+ chars) :
  Unbroken tail
  := by
  intro c hc
  apply h c (htail.subset hc)

theorem unbroken_nil :
  Unbroken []
  := by
  rintro c ⟨⟩

theorem Unbroken.cons (hc : isDelimiter c = false) (h : Unbroken chars) :
  Unbroken (c :: chars)
  := by
  intro d hd
  rcases List.mem_cons.mp hd with rfl | hd
  · apply hc
  · apply h d hd

/-- The pieces of characters between delimiters. -/
def pieces (chars : List Char) : List (List Char) :=
  chars.splitOnP isDelimiter

theorem Unbroken.pieces_eq (h : Unbroken chars) :
  pieces chars = [chars]
  := List.splitOnP_eq_singleton h

theorem Unbroken.pieces_append (h : Unbroken chars) (hc : isDelimiter c = true)
    (rest : List Char) :
  pieces (chars ++ c :: rest) = chars :: pieces rest
  := by
  rw [pieces, List.splitOnP_append_cons chars rest hc, ← pieces, h.pieces_eq]
  rfl

/-- Characters are unbroken, or an unbroken piece comes before a delimiter. -/
theorem unbroken_or_cut (chars : List Char) :
  Unbroken chars
    ∨ ∃ piece c rest, chars = piece ++ c :: rest ∧ Unbroken piece ∧ isDelimiter c = true
  := by
  induction chars with
  | nil => apply Or.inl unbroken_nil
  | cons first chars ih =>
      cases hfirst : isDelimiter first with
      | true =>
          apply Or.inr
          use [], first, chars, rfl, unbroken_nil
      | false =>
          rcases ih with h | ⟨piece, c, rest, rfl, hpiece, hc⟩
          · apply Or.inl (h.cons hfirst)
          · apply Or.inr
            use first :: piece, c, rest, rfl, hpiece.cons hfirst

/-- What holds of unbroken characters, and of others if it holds of those after their first
delimiter, holds of all. -/
theorem pieceRec {P : List Char → Prop} (unbroken : ∀ chars, Unbroken chars → P chars)
    (cut : ∀ piece c rest, Unbroken piece → isDelimiter c = true → P rest → P (piece ++ c :: rest))
    (chars : List Char) :
  P chars
  := by
  induction hlength : chars.length using Nat.strongRecOn generalizing chars with
  | ind length ih =>
      rcases unbroken_or_cut chars with h | ⟨piece, c, rest, rfl, hpiece, hc⟩
      · apply unbroken chars h
      · apply cut piece c rest hpiece hc
        apply ih rest.length _ rest rfl
        simp at hlength
        omega

theorem unbroken_of_mem_pieces {piece : List Char} (h : piece ∈ pieces chars) :
  Unbroken piece
  := eq_false_of_mem_splitOnP h

/-! ### The address of a piece -/

/-- A scheme stands at the beginning of characters, with something after it. -/
def Opens (chars : List Char) : Prop :=
  ∃ scheme ∈ schemes, ∃ c rest, chars = scheme ++ c :: rest

/-- Characters end with a tail that a scheme opens, and no longer tail is opened by one. -/
structure OpensAt (chars tail : List Char) : Prop where
  /-- The tail is one of the characters. -/
  suffix : tail <:+ chars
  /-- The tail is opened by a scheme. -/
  opens : Opens tail
  /-- No scheme opens a longer tail. -/
  first : ∀ other, other <:+ chars → Opens other → other <:+ tail

/-- An address is what stands before the punctuation at the end of characters. -/
structure Closes (url : String) (chars : List Char) : Prop where
  /-- Only punctuation comes after it. -/
  punctuation : ∃ rest, chars = url.toList ++ rest ∧ ∀ c ∈ rest, isTrailing c = true
  /-- It does not end with punctuation itself. -/
  last : ∀ c ∈ url.toList.getLast?, isTrailing c = false

theorem closes_iff {url : String} :
  Closes url chars ↔ String.ofList (dropRightWhile isTrailing chars) = url
  := by
  constructor
  · rintro ⟨⟨rest, rfl, hrest⟩, hlast⟩
    rw [dropRightWhile_append hlast hrest, String.ofList_toList]
  · rintro rfl
    constructor
    · use chars.rtakeWhile isTrailing
      rw [String.toList_ofList]
      use List.rdropWhile_append_rtakeWhile.symm
      intro c
      apply List.mem_rtakeWhile_imp
    · rw [String.toList_ofList]
      apply getLast?_dropRightWhile

theorem Unbroken.begins_iff_opens (h : Unbroken chars) :
  begins chars = true ↔ Opens chars
  := by
  rw [begins_iff]
  constructor
  · rintro ⟨scheme, hscheme, c, rest, rfl, -⟩
    use scheme, hscheme, c, rest
  · rintro ⟨scheme, hscheme, c, rest, rfl⟩
    use scheme, hscheme, c, rest, rfl
    apply h.isInner
    simp

theorem not_opens_nil :
  ¬ Opens []
  := by
  rintro ⟨scheme, -, c, rest, h⟩
  simp at h

/-- Either no scheme opens a tail, or there is a longest tail that one opens. -/
theorem exists_opensAt (chars : List Char) :
  (∀ tail, tail <:+ chars → ¬ Opens tail) ∨ ∃ tail, OpensAt chars tail
  := by
  induction chars with
  | nil =>
      apply Or.inl
      intro tail htail
      rw [List.suffix_nil.mp htail]
      apply not_opens_nil
  | cons first rest ih =>
      by_cases hopens : Opens (first :: rest)
      · apply Or.inr
        use first :: rest, List.suffix_rfl, hopens
        intro other hother _
        apply hother
      · have hrest : ∀ other, other <:+ first :: rest → Opens other → other <:+ rest := by
          intro other hother hopen
          rcases List.suffix_cons_iff.mp hother with rfl | hother
          · apply absurd hopen hopens
          · apply hother
        rcases ih with hnone | ⟨tail, htail, hopen, hfirst⟩
        · apply Or.inl
          intro tail htail hopen
          apply hnone tail (hrest tail htail hopen) hopen
        · apply Or.inr
          use tail, htail.trans (List.suffix_cons first rest), hopen
          intro other hother hopen
          apply hfirst other (hrest other hother hopen) hopen

theorem Unbroken.scan_eq_nil (h : Unbroken chars) (hnone : ∀ tail, tail <:+ chars → ¬ Opens tail) :
  scan chars = []
  := by
  induction chars with
  | nil => rw [scan]
  | cons first rest ih =>
      have hbegins : ¬ begins (first :: rest) = true := by
        rw [h.begins_iff_opens]
        apply hnone _ List.suffix_rfl
      rw [scan, if_neg hbegins]
      apply ih (h.of_suffix (List.suffix_cons first rest))
      intro tail htail
      apply hnone tail (htail.trans (List.suffix_cons first rest))

theorem Unbroken.scan_eq_singleton (h : Unbroken chars) (htail : OpensAt chars tail) :
  scan chars = [tail]
  := by
  obtain ⟨hsuffix, hopens, hfirst⟩ := htail
  induction chars with
  | nil =>
      rw [List.suffix_nil.mp hsuffix] at hopens
      apply absurd hopens not_opens_nil
  | cons first rest ih =>
      have hrest : Unbroken rest := h.of_suffix (List.suffix_cons first rest)
      rw [scan]
      by_cases hbegins : begins (first :: rest) = true
      · have heq : tail = first :: rest := by
          apply hsuffix.eq_of_length_le
          apply (hfirst _ List.suffix_rfl (h.begins_iff_opens.mp hbegins)).length_le
        have hnil : rest.dropWhile Url.isInner = [] := List.dropWhile_eq_nil_iff.mpr hrest.isInner
        rw [if_pos hbegins, List.takeWhile_eq_self_iff.mpr hrest.isInner, hnil, scan, heq]
      · rw [if_neg hbegins]
        apply ih hrest
        · rcases List.suffix_cons_iff.mp hsuffix with rfl | hsuffix
          · apply absurd (h.begins_iff_opens.mpr hopens) hbegins
          · apply hsuffix
        · intro other hother
          apply hfirst other (hother.trans (List.suffix_cons first rest))

theorem Unbroken.mem_scan_iff (h : Unbroken chars) :
  tail ∈ scan chars ↔ OpensAt chars tail
  := by
  constructor
  · intro hmem
    rcases exists_opensAt chars with hnone | ⟨found, hfound⟩
    · rw [h.scan_eq_nil hnone] at hmem
      cases hmem
    · rw [h.scan_eq_singleton hfound, List.mem_singleton] at hmem
      rw [hmem]
      apply hfound
  · intro htail
    rw [h.scan_eq_singleton htail]
    apply List.mem_cons_self

/-- The addresses with their punctuation are those of the pieces. -/
theorem mem_scan_iff :
  tail ∈ scan chars ↔ ∃ piece ∈ pieces chars, OpensAt piece tail
  := by
  induction chars using pieceRec with
  | unbroken chars h => simp [h.mem_scan_iff, h.pieces_eq]
  | cut piece c rest hpiece hc ih =>
      rw [scan_append hc, List.mem_append, hpiece.mem_scan_iff, ih, hpiece.pieces_append hc,
        List.exists_mem_cons_iff]

theorem mem_find_iff {url text : String} :
  url ∈ find text ↔ ∃ piece ∈ pieces text.toList, ∃ tail, OpensAt piece tail ∧ Closes url tail
  := by
  simp only [find, List.mem_eraseDups, List.mem_map, mem_scan_iff, ← closes_iff]
  constructor
  · rintro ⟨tail, ⟨piece, hpiece, htail⟩, hurl⟩
    use piece, hpiece, tail
  · rintro ⟨piece, hpiece, tail, htail, hurl⟩
    use tail, ⟨piece, hpiece, htail⟩

/-! ### Laws of searching for addresses -/

/-- The laws of a search for addresses. -/
structure Laws (search : String → List String) : Prop where
  /-- A delimiter cuts a text into two that are searched one after the other, and each address
  counts where it first occurs. -/
  cut : ∀ (text rest : String) (c : Char), isDelimiter c = true →
    search (text ++ String.singleton c ++ rest) = (search text ++ search rest).eraseDups
  /-- Nothing is found in a piece that has no scheme with something after it. -/
  none : ∀ piece : String, Unbroken piece.toList →
    (∀ tail, tail <:+ piece.toList → ¬ Opens tail) → search piece = []
  /-- In any other piece the one address is found that begins with the first such scheme, and
  after which only punctuation comes. -/
  one : ∀ (piece : String) (tail : List Char) (url : String), Unbroken piece.toList →
    OpensAt piece.toList tail → Closes url tail → search piece = [url]

theorem find_laws :
  Laws find
  := by
  constructor
  case cut =>
    intro text rest c h
    apply find_cut h
  case none =>
    intro piece hpiece hnone
    rw [find, hpiece.scan_eq_nil hnone]
    rfl
  case one =>
    intro piece tail url hpiece htail hurl
    rw [find, hpiece.scan_eq_singleton htail, List.map_singleton, closes_iff.mp hurl]
    rfl

theorem Laws.eq {search other : String → List String} (h : Laws search) (hother : Laws other) :
  search = other
  := by
  have hunbroken : ∀ chars, Unbroken chars →
      search (String.ofList chars) = other (String.ofList chars) := by
    intro chars hchars
    rw [← String.toList_ofList (l := chars)] at hchars
    rcases exists_opensAt (String.ofList chars).toList with hnone | ⟨tail, htail⟩
    · rw [h.none _ hchars hnone, hother.none _ hchars hnone]
    · have hurl := closes_iff.mpr (Eq.refl (String.ofList (dropRightWhile isTrailing tail)))
      rw [h.one _ tail _ hchars htail hurl, hother.one _ tail _ hchars htail hurl]
  have hchars : ∀ chars, search (String.ofList chars) = other (String.ofList chars) := by
    intro chars
    induction chars using pieceRec with
    | unbroken chars hchars => apply hunbroken chars hchars
    | cut piece c rest hpiece hc ih =>
        have hcut : String.ofList (piece ++ c :: rest)
            = String.ofList piece ++ String.singleton c ++ String.ofList rest := by
          rw [← String.toList_inj, toList_cut]
          simp only [String.toList_ofList]
        rw [hcut, h.cut _ _ c hc, hother.cut _ _ c hc, ih, hunbroken piece hpiece]
  funext text
  rw [← String.ofList_toList (s := text)]
  apply hchars

/-- The laws determine the search: `find` obeys them, and it is the only function that does. -/
theorem laws_iff_eq_find (search : String → List String) :
  Laws search ↔ search = find
  := by
  constructor
  · intro h
    apply h.eq find_laws
  · rintro rfl
    apply find_laws

/-! ### Schemes without an address -/

variable {scheme : List Char} {url text : String}

/-- A scheme does not end with punctuation. -/
theorem isTrailing_getLast?_scheme (h : scheme ∈ schemes) :
  ∀ c ∈ scheme.getLast?, isTrailing c = false
  := by
  have hall : schemes.all (fun scheme => scheme.getLast?.all (!isTrailing ·)) = true := by decide
  rw [List.all_eq_true] at hall
  intro c hc
  simpa [Option.mem_def.mp hc] using hall scheme h

/-- Nothing is taken away from the scheme of an address. -/
theorem Closes.scheme_prefix {rest : List Char} (hscheme : scheme ∈ schemes)
    (h : Closes url (scheme ++ rest)) :
  scheme <+: url.toList
  := by
  obtain ⟨⟨punctuation, heq, hpunctuation⟩, -⟩ := h
  rcases List.append_eq_append_iff.mp heq with ⟨between, hurl, -⟩ | ⟨between, hbetween, rfl⟩
  · use between, hurl.symm
  · rcases List.eq_nil_or_concat' between with rfl | ⟨front, c, rfl⟩
    · use []
      rw [hbetween, List.append_nil, List.append_nil]
    · -- The last character of the scheme would be punctuation.
      have hc : isTrailing c = false := by
        apply isTrailing_getLast?_scheme hscheme
        simp [hbetween]
      rw [hpunctuation c (by simp)] at hc
      cases hc

theorem find_scheme (h : scheme ∈ schemes) :
  find (String.ofList scheme) = []
  := by
  have hall : (schemes.all fun scheme => find (String.ofList scheme) == []) = true := by
    decide +kernel
  rw [List.all_eq_true] at hall
  apply eq_of_beq (hall scheme h)

/-- A scheme is checked if it is found. -/
theorem isChecked_scheme (h : scheme ∈ schemes) :
  isChecked (String.ofList scheme) = true
  := by
  have hall : (schemes.all fun scheme => isChecked (String.ofList scheme)) = true := by
    decide +kernel
  rw [List.all_eq_true] at hall
  apply hall scheme h

/-- An address that is found is found in itself, unless it is only a scheme. -/
theorem find_eq_singleton_iff (h : url ∈ find text) :
  find url = [url] ↔ url.toList ∉ schemes
  := by
  constructor
  · intro hself hscheme
    have hnone := find_scheme hscheme
    rw [String.ofList_toList, hself] at hnone
    cases hnone
  · intro hscheme
    obtain ⟨piece, hpiece, tail, htail, hurl⟩ := mem_find_iff.mp h
    obtain ⟨scheme, hmem, c, rest, rfl⟩ := htail.opens
    obtain ⟨more, hmore⟩ := hurl.scheme_prefix hmem
    have hunbroken : Unbroken url.toList := by
      obtain ⟨⟨punctuation, heq, -⟩, -⟩ := hurl
      intro d hd
      apply unbroken_of_mem_pieces hpiece d
      apply htail.suffix.subset
      rw [heq]
      apply List.mem_append_left _ hd
    have hopens : Opens url.toList := by
      cases more with
      | nil =>
          rw [List.append_nil] at hmore
          rw [hmore] at hmem
          apply absurd hmem hscheme
      | cons d more => use scheme, hmem, d, more, hmore.symm
    apply find_laws.one url url.toList url hunbroken
    · use List.suffix_rfl, hopens
      intro other hother _
      apply hother
    · use ⟨[], (List.append_nil _).symm, List.forall_mem_nil _⟩
      apply hurl.last

/-- In a text, a piece has a scheme as its first with something after it, but only punctuation. -/
def IsBareIn (scheme : List Char) (text : String) : Prop :=
  ∃ piece ∈ pieces text.toList, ∃ rest,
    OpensAt piece (scheme ++ rest) ∧ ∀ c ∈ rest, isTrailing c = true

theorem ofList_mem_find_iff (h : scheme ∈ schemes) :
  String.ofList scheme ∈ find text ↔ IsBareIn scheme text
  := by
  rw [mem_find_iff]
  constructor
  · rintro ⟨piece, hpiece, tail, htail, ⟨rest, rfl, hrest⟩, -⟩
    rw [String.toList_ofList] at htail
    use piece, hpiece, rest
  · rintro ⟨piece, hpiece, rest, hopens, hrest⟩
    use piece, hpiece, scheme ++ rest, hopens
    constructor
    · use rest
      rw [String.toList_ofList]
      use rfl
    · rw [String.toList_ofList]
      apply isTrailing_getLast?_scheme h

end ReadmeAudit.Url
