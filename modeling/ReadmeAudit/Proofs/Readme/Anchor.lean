import ReadmeAudit.Proofs.Readme.Inventory
import ReadmeAudit.Proofs.Text.Case

/-!
# Items by anchor

`Anchor.StandsAt` says, without saying how it is found, that an anchor stands at a position of a
text: its tag, blanks, the attribute with the type, the name, and a quote. Where no section is
found, the items that are asked for are the names of the anchors of a type, each once, in the order
in which they first appear. The anchors are read a second time, with names in lower case, to drop
the items that are marked as something else. That drops none of the items that were read from the
anchors.
-/

namespace ReadmeAudit

open Text

namespace Anchor

/-! ### Anchors in a text -/

/-- An anchor of a type with a name is at the front of a list of characters: a tag, blanks, an
attribute with the type, and a name that ends in a quote. Case does not matter up to the name. -/
def Leads (type : AnchorType) (name : String) (chars : List Char) : Prop :=
  ∃ tag blanks lead rest : List Char,
    chars = tag ++ (blanks ++ (lead ++ (name.toList ++ '"' :: rest)))
      ∧ Spells ['<', 'a'] tag
      ∧ blanks ≠ [] ∧ (∀ c ∈ blanks, isBlank c = true)
      ∧ Spells ("name=\"" ++ type.word ++ "_").toList lead
      ∧ name ≠ "" ∧ ∀ c ∈ name.toList, c ≠ '"' ∧ isBlank c = false

/-- An anchor stands at a position of a text. -/
def StandsAt (type : AnchorType) (name text : String) (position : Nat) : Prop :=
  Leads type name (text.toList.drop position)

theorem isNameChar_iff {c : Char} :
  isNameChar c = true ↔ c ≠ '"' ∧ isBlank c = false
  := by
  rw [isNameChar, Bool.and_eq_true, bne_iff_ne, Bool.not_eq_true']

/-- What is found after the attribute is a name that ends in a quote. -/
theorem exists_of_takeWhile_isNameChar {chars : List Char}
    (h : (chars.drop (chars.takeWhile isNameChar).length).head? = some '"') :
  ∃ rest, chars = chars.takeWhile isNameChar ++ '"' :: rest
  := by
  obtain ⟨rest, hrest⟩ := List.head?_eq_some_iff.mp h
  use rest
  rw [← hrest]
  apply (List.prefix_iff_eq_append.mp (List.takeWhile_prefix isNameChar)).symm

/-- What has been found when an anchor is. -/
theorem exists_of_name? {type : AnchorType} {chars name : List Char}
    (h : name? type chars = some name) :
  ∃ blank inside after, afterWord? ['<', 'a'] chars = some (blank :: inside)
    ∧ isBlank blank = true
    ∧ afterWord? ("name=\"" ++ type.word ++ "_").toList (inside.dropWhile isBlank) = some after
    ∧ after.takeWhile isNameChar = name ∧ name ≠ []
    ∧ (after.drop name.length).head? = some '"'
  := by
  rw [name?] at h
  split at h
  · next blank inside htag =>
    split at h
    · next hblank =>
      split at h
      · next after hlead =>
        dsimp only at h
        split at h
        · cases h
        · next hempty =>
          split at h
          · next hquote =>
            obtain rfl := Option.some.inj h
            rw [List.isEmpty_iff] at hempty
            use blank, inside, after, htag, hblank, hlead, rfl, hempty, hquote
          · cases h
      · cases h
    · cases h
  · cases h

theorem leads_of_name? {type : AnchorType} {chars name : List Char}
    (h : name? type chars = some name) :
  Leads type (String.ofList name) chars
  := by
  obtain ⟨blank, inside, after, htag, hblank, hlead, rfl, hempty, hquote⟩ := exists_of_name? h
  obtain ⟨tag, hspells, rfl⟩ := exists_of_afterWord? htag
  obtain ⟨lead, hlead, hinside⟩ := exists_of_afterWord? hlead
  obtain ⟨rest, hrest⟩ := exists_of_takeWhile_isNameChar hquote
  refine ⟨tag, blank :: inside.takeWhile isBlank, lead, rest, ?_, hspells,
    List.cons_ne_nil _ _, ?_, hlead, ?_, ?_⟩
  · rw [String.toList_ofList, ← hrest, ← hinside, List.cons_append,
      List.takeWhile_append_dropWhile]
  · rw [List.forall_mem_cons]
    use hblank
    intro c hc
    apply List.mem_takeWhile_imp hc
  · intro hname
    rw [← String.toList_eq_nil_iff, String.toList_ofList] at hname
    apply hempty hname
  · intro c hc
    rw [String.toList_ofList] at hc
    apply isNameChar_iff.mp (List.mem_takeWhile_imp hc)

theorem isBlank_of_sameLetter {c : Char} (h : sameLetter 'n' c = true) :
  isBlank c = false
  := by
  by_cases hascii : c.toNat < 0x80
  · revert h
    apply forall_ascii (P := fun c => sameLetter 'n' c = true → isBlank c = false) _ hascii
    decide +kernel
  · simp [sameLetter, hascii] at h

/-- The attribute does not begin with a blank. -/
theorem dropWhile_isBlank_append {type : AnchorType} {lead : List Char}
    (h : Spells ("name=\"" ++ type.word ++ "_").toList lead) (rest : List Char) :
  (lead ++ rest).dropWhile isBlank = lead ++ rest
  := by
  have hword : ("name=\"" ++ type.word ++ "_").toList
      = 'n' :: ("ame=\"" ++ type.word ++ "_").toList := by
    cases type with
    | input => decide
    | output => decide
  rw [hword] at h
  obtain ⟨c, after, hc, -, rfl⟩ := List.forall₂_cons_left_iff.mp h
  rw [List.cons_append, List.dropWhile_cons, isBlank_of_sameLetter hc]
  rfl

theorem name?_of_leads {type : AnchorType} {chars : List Char} {name : String}
    (h : Leads type name chars) :
  name? type chars = some name.toList
  := by
  obtain ⟨tag, blanks, lead, rest, rfl, htag, hne, hblanks, hlead, hname, hchars⟩ := h
  obtain ⟨blank, blanks, rfl⟩ := List.exists_cons_of_ne_nil hne
  rw [List.forall_mem_cons] at hblanks
  have htake : (name.toList ++ '"' :: rest).takeWhile isNameChar = name.toList := by
    rw [List.takeWhile_append_of_pos (fun c hc => isNameChar_iff.mpr (hchars c hc))]
    apply List.append_nil _
  have hnil : name.toList.isEmpty = false := by
    rw [List.isEmpty_eq_false_iff]
    intro hempty
    apply hname (String.toList_eq_nil_iff.mp hempty)
  rw [name?, afterWord?_append htag, List.cons_append]
  dsimp only
  rw [if_pos hblanks.1, List.dropWhile_append_of_pos hblanks.2, dropWhile_isBlank_append hlead,
    afterWord?_append hlead]
  dsimp only
  rw [htake, hnil, List.drop_left, List.head?_cons]
  rfl

theorem name?_eq_some_iff {type : AnchorType} {chars : List Char} {name : String} :
  (name? type chars).map String.ofList = some name ↔ Leads type name chars
  := by
  constructor
  · intro h
    obtain ⟨chars, hname, rfl⟩ := Option.map_eq_some_iff.mp h
    apply leads_of_name? hname
  · intro h
    rw [name?_of_leads h, Option.map_some, String.ofList_toList]

/-- The names of anchors, by position. -/
theorem namesIn_eq (type : AnchorType) (chars : List Char) :
  namesIn type chars = (List.range chars.length).filterMap fun position =>
    (name? type (chars.drop position)).map String.ofList
  := by
  induction chars with
  | nil => rfl
  | cons c rest ih =>
      rw [namesIn, List.length_cons, List.range_succ_eq_map, List.filterMap_cons,
        List.filterMap_map, List.drop_zero]
      cases name? type (c :: rest) with
      | none => apply ih
      | some name => apply congrArg _ ih

/-- There is no anchor at the end of a text. -/
theorem StandsAt.lt_length {type : AnchorType} {name text : String} {position : Nat}
    (h : StandsAt type name text position) :
  position < text.toList.length
  := by
  by_contra hlength
  obtain ⟨tag, blanks, lead, rest, heq, -⟩ := h
  rw [List.drop_of_length_le (Nat.le_of_not_lt hlength)] at heq
  simp at heq

theorem mem_names_iff {type : AnchorType} {name text : String} :
  name ∈ names type text ↔ ∃ position, StandsAt type name text position
  := by
  simp only [names, namesIn_eq, List.mem_filterMap, List.mem_range, name?_eq_some_iff]
  constructor
  · rintro ⟨position, -, h⟩
    apply Exists.intro position h
  · rintro ⟨position, h⟩
    apply Exists.intro position ⟨h.lt_length, h⟩

/-! ### Each name once -/

/-- A name is met before another: it has a position, below a bound, that is before all those of the
other. -/
def MetBefore (nameAt? : Nat → Option String) (bound : Nat) (first second : String) : Prop :=
  ∃ position < bound, nameAt? position = some first
    ∧ ∀ other < bound, nameAt? other = some second → position < other

/-- The position at the bound is after those below it. -/
theorem MetBefore.succ {nameAt? : Nat → Option String} {bound : Nat} {first second : String}
    (h : MetBefore nameAt? bound first second) :
  MetBefore nameAt? (bound + 1) first second
  := by
  obtain ⟨position, hposition, hfirst, hsecond⟩ := h
  use position, by omega, hfirst
  intro other hother hname
  rcases Nat.lt_succ_iff_lt_or_eq.mp hother with hlt | rfl
  · apply hsecond other hlt hname
  · apply hposition

/-- Names at positions, each kept once, are in the order in which they are met. -/
theorem eraseDups_pairwise_metBefore (nameAt? : Nat → Option String) (bound : Nat) :
  ((List.range bound).filterMap nameAt?).eraseDups.Pairwise (MetBefore nameAt? bound)
  := by
  induction bound with
  | zero => apply List.Pairwise.nil
  | succ bound ih =>
      have hbelow := ih.imp MetBefore.succ
      rw [List.range_succ, List.filterMap_append, ← Readme.foldl_addNew_nil, List.foldl_append,
        Readme.foldl_addNew_nil]
      cases hlast : nameAt? bound with
      | none =>
          rw [List.filterMap_cons_none hlast]
          apply hbelow
      | some name =>
          rw [List.filterMap_cons_some hlast, List.filterMap_nil, List.foldl_cons, List.foldl_nil,
            Readme.addNew]
          split
          · apply hbelow
          · next hnew =>
            rw [List.contains_iff_mem, List.mem_eraseDups] at hnew
            rw [List.pairwise_append]
            refine ⟨hbelow, List.pairwise_singleton _ _, ?_⟩
            intro first hfirst second hsecond
            obtain rfl := List.mem_singleton.mp hsecond
            rw [List.mem_eraseDups] at hfirst
            obtain ⟨position, hposition, hname⟩ := List.mem_filterMap.mp hfirst
            apply MetBefore.succ
            use position, List.mem_range.mp hposition, hname
            intro other hother hname'
            apply absurd (List.mem_filterMap.mpr ⟨other, List.mem_range.mpr hother, hname'⟩) hnew

/-- Items are exactly the names of the anchors of a type in a text, each once, in the order in which
they first appear. -/
structure Enumerates (type : AnchorType) (text : String) (items : List String) : Prop where
  /-- No item is there twice. -/
  nodup : items.Nodup
  /-- The items are the names of anchors. -/
  mem_iff : ∀ item, item ∈ items ↔ ∃ position, StandsAt type item text position
  /-- An item has an anchor before all those of the items after it. -/
  ordered : items.Pairwise fun first second => ∃ position, StandsAt type first text position
    ∧ ∀ other, StandsAt type second text other → position < other

theorem enumerates_eraseDups (type : AnchorType) (text : String) :
  Enumerates type text (names type text).eraseDups
  := by
  constructor
  · apply nodup_eraseDups
  · intro item
    rw [List.mem_eraseDups, mem_names_iff]
  · rw [names, namesIn_eq]
    apply (eraseDups_pairwise_metBefore _ _).imp
    rintro first second ⟨position, -, hfirst, hsecond⟩
    use position, name?_eq_some_iff.mp hfirst
    intro other hother
    apply hsecond other hother.lt_length (name?_eq_some_iff.mpr hother)

end Anchor

/-! ### The expected type -/

namespace AnchorType

/-- Names of sections ask for a type if the first of them that mentions a type mentions it, and does
not mention inputs if the type is that of outputs. -/
def IsExpectedBy (type : AnchorType) (names : List String) : Prop :=
  ∃ front name rest, names = front ++ name :: rest
    ∧ type.isMentionedIn name = true
    ∧ (type = output → input.isMentionedIn name = false)
    ∧ ∀ earlier ∈ front, ∀ other : AnchorType, other.isMentionedIn earlier = false

theorem find?_all_eq_some_iff {type : AnchorType} {name : String} :
  all.find? (·.isMentionedIn name) = some type
    ↔ type.isMentionedIn name = true ∧ (type = output → input.isMentionedIn name = false)
  := by
  cases hinput : input.isMentionedIn name with
  | true =>
      cases type with
      | input => simp [all, hinput]
      | output => simp [all, hinput]
  | false =>
      cases type with
      | input => simp [all, hinput]
      | output => simp [all, hinput]

theorem find?_all_eq_none_iff {name : String} :
  all.find? (·.isMentionedIn name) = none ↔ ∀ type : AnchorType, type.isMentionedIn name = false
  := by
  simp only [List.find?_eq_none, Bool.not_eq_true]
  constructor
  · intro h type
    cases type with
    | input => apply h input (by decide)
    | output => apply h output (by decide)
  · intro h type _
    apply h type

theorem expectedBy_eq_some_iff {type : AnchorType} {names : List String} :
  expectedBy names = some type ↔ type.IsExpectedBy names
  := by
  simp only [expectedBy, List.findSome?_eq_some_iff, find?_all_eq_some_iff, find?_all_eq_none_iff,
    IsExpectedBy, and_assoc]

/-- Names that mention one type ask for it. -/
theorem expectedBy_of_mentioned {type : AnchorType} {names : List String}
    (h : ∃ name ∈ names, type.isMentionedIn name = true)
    (hother : ∀ name ∈ names, ∀ other ≠ type, other.isMentionedIn name = false) :
  expectedBy names = some type
  := by
  obtain ⟨name, hname, hmentioned⟩ := h
  cases hexpected : expectedBy names with
  | none =>
      have hnone := List.findSome?_eq_none_iff.mp hexpected name hname
      rw [find?_all_eq_none_iff.mp hnone type] at hmentioned
      cases hmentioned
  | some expected =>
      obtain ⟨front, name', rest, rfl, hmentioned', -⟩ := expectedBy_eq_some_iff.mp hexpected
      by_contra hne
      rw [hother name' (by simp) expected (by rintro rfl; apply hne rfl)] at hmentioned'
      cases hmentioned'

theorem filter_all_of_mentioned {type : AnchorType} {names : List String}
    (h : ∃ name ∈ names, type.isMentionedIn name = true)
    (hother : ∀ name ∈ names, ∀ other ≠ type, other.isMentionedIn name = false) :
  all.filter (fun type => names.any type.isMentionedIn) = [type]
  := by
  have htype : names.any type.isMentionedIn = true := List.any_eq_true.mpr h
  have hnone : ∀ other ≠ type, names.any other.isMentionedIn = false := by
    intro other hne
    rw [List.any_eq_false]
    intro name hname
    rw [hother name hname other hne]
    decide
  cases type with
  | input => simp [all, htype, hnone output (by decide)]
  | output => simp [all, htype, hnone input (by decide)]

end AnchorType

/-! ### Items -/

namespace Readme

variable {readme : Readme} {names : List String}

/-- An item is marked as a type if an anchor of the type has its name, case ignored. -/
def IsMarkedAs (readme : Readme) (type : AnchorType) (item : String) : Prop :=
  ∃ name position, Anchor.StandsAt type name readme.source position ∧ lower name = lower item

theorem hasAnchor_iff {type : AnchorType} {item : String} :
  readme.HasAnchor type item ↔ readme.IsMarkedAs type item
  := by
  simp only [HasAnchor, IsMarkedAs, Anchor.mem_names_iff]
  constructor
  · rintro ⟨name, ⟨position, hposition⟩, hname⟩
    use name, position, hposition, hname
  · rintro ⟨name, position, hposition, hname⟩
    use name, ⟨position, hposition⟩, hname

/-- Where no section is found and the names mention one type, the items are the names of its
anchors. -/
theorem anchoredItems_of_mentioned {type : AnchorType}
    (h : ∃ name ∈ names, type.isMentionedIn name = true)
    (hother : ∀ name ∈ names, ∀ other ≠ type, other.isMentionedIn name = false) :
  readme.anchoredItems names = (Anchor.names type readme.source).eraseDups
  := by
  rw [anchoredItems, AnchorType.filter_all_of_mentioned h hother, List.flatMap_cons,
    List.flatMap_nil, List.append_nil]

/-- Items that have anchors of the expected type agree with it. -/
theorem agreeing_eq_self {type : AnchorType} {items : List String}
    (hexpected : AnchorType.expectedBy names = some type)
    (h : ∀ item ∈ items, readme.HasAnchor type item) :
  readme.agreeing names items = items
  := by
  rw [agreeing, hexpected]
  apply List.filter_eq_self.mpr
  intro item hitem
  rw [Bool.not_eq_true', ← Bool.not_eq_true, contradicts_iff]
  rintro ⟨-, hnone⟩
  apply hnone (h item hitem)

/-- How anchors and items agree. Where no section is found and the names mention one type, the items
are exactly the names of the anchors of the type, each once, in the order in which they first
appear, and none is dropped. If the names ask for a type, then, whether or not sections are found,
exactly those items are dropped whose name an anchor has, case ignored, but no anchor of the
type. -/
theorem items_agree_with_anchors (readme : Readme) (names : List String) :
  (∀ type : AnchorType, (¬ ∃ part, readme.IsSectionOf names part) →
      (∃ name ∈ names, type.isMentionedIn name = true) →
      (∀ name ∈ names, ∀ other ≠ type, other.isMentionedIn name = false) →
      Anchor.Enumerates type readme.source (readme.items names)
        ∧ readme.items names
          = readme.candidates names (Section.merge (names.map readme.denoted)))
    ∧ ∀ expected : AnchorType, expected.IsExpectedBy names →
      ∃ dropped : String → Bool,
        readme.items names
            = (readme.candidates names (Section.merge (names.map readme.denoted))).filter
              (!dropped ·)
          ∧ ∀ item, dropped item = true
            ↔ (∃ type, readme.IsMarkedAs type item) ∧ ¬ readme.IsMarkedAs expected item
  := by
  constructor
  · intro type hnone hmentioned hother
    have hcandidates : readme.candidates names (Section.merge (names.map readme.denoted))
        = (Anchor.names type readme.source).eraseDups := by
      rw [candidates, if_pos (merge_isEmpty_iff.mpr hnone),
        anchoredItems_of_mentioned hmentioned hother]
    have hitems : readme.items names = (Anchor.names type readme.source).eraseDups := by
      rw [items, itemsIn, hcandidates]
      apply agreeing_eq_self (AnchorType.expectedBy_of_mentioned hmentioned hother)
      intro item hitem
      use item, List.mem_eraseDups.mp hitem
    rw [hitems, hcandidates]
    use Anchor.enumerates_eraseDups type readme.source
  · intro expected hexpected
    refine ⟨contradicts readme.anchors expected, ?_, ?_⟩
    · rw [items, itemsIn, agreeing, AnchorType.expectedBy_eq_some_iff.mpr hexpected]
    · intro item
      simp only [contradicts_iff, hasAnchor_iff]

/-- A README in which an item under a heading for outputs is marked as an input, twice. -/
def markedReadme : Readme :=
  read ("## Outputs\n\n### region\n\n"
    ++ "<A NAME=\"INPUT_Region\"> <a  name=\"input_size\"> <a name=\"input_region\">")
    (.fixed .document) []

theorem items_markedReadme :
  (Section.merge (["Required Inputs"].map markedReadme.denoted)).isEmpty = true
    ∧ markedReadme.items ["Required Inputs"] = ["Region", "size", "region"]
    ∧ markedReadme.candidates ["Outputs"] (Section.merge (["Outputs"].map markedReadme.denoted))
      = ["region"]
    ∧ markedReadme.items ["Outputs"] = []
  := by
  decide +kernel

theorem items_agree_with_anchors_marked :
  (¬ ∃ part, markedReadme.IsSectionOf ["Required Inputs"] part)
    ∧ Anchor.Enumerates .input markedReadme.source ["Region", "size", "region"]
    ∧ AnchorType.output.IsExpectedBy ["Outputs"]
    ∧ (∃ type, markedReadme.IsMarkedAs type "region") ∧ ¬ markedReadme.IsMarkedAs .output "region"
  := by
  obtain ⟨hmerge, hitems, hcandidates, hnone⟩ := items_markedReadme
  have hsection := merge_isEmpty_iff.mp hmerge
  have hexpected : AnchorType.output.IsExpectedBy ["Outputs"] :=
    AnchorType.expectedBy_eq_some_iff.mp (by decide +kernel)
  have hother : ∀ name ∈ ["Required Inputs"], ∀ other ≠ AnchorType.input,
      other.isMentionedIn name = false := by
    intro name hname other hne
    obtain rfl := List.mem_singleton.mp hname
    cases other with
    | input => apply absurd rfl hne
    | output => decide +kernel
  obtain ⟨henumerates, -⟩ := (items_agree_with_anchors markedReadme ["Required Inputs"]).1 .input
    hsection (by decide +kernel) hother
  rw [hitems] at henumerates
  obtain ⟨dropped, hfilter, hdropped⟩ :=
    (items_agree_with_anchors markedReadme ["Outputs"]).2 .output hexpected
  rw [hnone, hcandidates, eq_comm, List.filter_eq_nil_iff] at hfilter
  refine ⟨hsection, henumerates, hexpected, (hdropped "region").mp ?_⟩
  simpa using hfilter "region" List.mem_cons_self

end Readme

end ReadmeAudit
