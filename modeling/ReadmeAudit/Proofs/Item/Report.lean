import ReadmeAudit.Proofs.Item.Order
import ReadmeAudit.Proofs.Text.Case

/-!
# What a comparison reports, exactly

A comparison reports names of the declared side, followed by names of the documented side. For each
side `Unmatched` says exactly which names these are, in terms of the names that were given: the keys
are in strictly increasing order, a key is reported if its base is not on the other side and it is
not superseded by a qualified name, and it is spelled as at its first occurrence. Hence no bare name
is reported beside a qualified name of the same base, no qualified name without a counterpart is
lost, and no two problems have the same wording.
-/

namespace ReadmeAudit

open Text

/-! ### First spellings -/

/-- The spelling of a key in a list of names: the first name that is not blank and has the key,
without surrounding blanks. -/
def firstSpelling? (names : List String) (key : String) : Option String :=
  (names.find? fun name => !isBlankText name && keyOf name == key).map strip

theorem Item.any_ofName? (name key : String) :
  (ofName? name).any (·.key == key) = (!isBlankText name && keyOf name == key)
  := by
  rw [ofName?, strip_isEmpty]
  cases isBlankText name with
  | true => rfl
  | false => rfl

/-- The entries of an index have the first spellings. -/
theorem Index.firstSpelling?_of_mem {names : List String} {item : Item}
    (h : item ∈ (ofNames names).entries) :
  firstSpelling? names item.key = some item.spelling
  := by
  have hfind := find?_of_mem_distinctBy (mem_entries_ofNames_iff.mp h).1
  rw [List.find?_filterMap] at hfind
  simp only [Item.any_ofName?] at hfind
  obtain ⟨name, hname, hitem⟩ := Option.bind_eq_some_iff.mp hfind
  rw [firstSpelling?, hname, (Item.eq_of_ofName? hitem).2.1]
  rfl

/-! ### Points in names -/

theorem point_mem_keyOf_iff {name : String} :
  '.' ∈ (keyOf name).toList ↔ '.' ∈ name.toList
  := by
  rw [keyOf, point_mem_lower_iff, mem_strip_iff (by decide)]

/-- A name with a point is not blank. -/
theorem isBlankText_of_point_mem {name : String} (h : '.' ∈ name.toList) :
  isBlankText name = false
  := by
  rw [isBlankText, List.all_eq_false]
  use '.', h
  decide

/-- Whether a qualified name supersedes a key can be asked of the names. -/
theorem superseded_iff {names : List String} {base : String} :
  (∀ key ∈ keySet names, keyQualified key = true → keyBase key ≠ base)
    ↔ ∀ name ∈ names, '.' ∈ name.toList → baseOf name ≠ base
  := by
  constructor
  · intro h name hname hpoint
    apply h (keyOf name) (mem_keySet hname (isBlankText_of_point_mem hpoint))
    rw [keyQualified, List.contains_iff_mem, point_mem_keyOf_iff]
    apply hpoint
  · rintro h _ ⟨name, hname, -, rfl⟩ hqualified
    rw [keyQualified, List.contains_iff_mem, point_mem_keyOf_iff] at hqualified
    apply h name hname hqualified

/-! ### One side -/

/-- Spellings are exactly those of the names of one side that have no counterpart on the other. -/
structure Unmatched (side other spellings : List String) : Prop where
  /-- The keys are in strictly increasing order. -/
  sorted : (spellings.map lower).Pairwise (· < ·)
  /-- A key is there if it is that of a name that is not blank, no such name of the other side has
  its base, and it has a point or no name with a point has its base. -/
  mem_iff : ∀ key, key ∈ spellings.map lower
    ↔ key ∈ keySet side ∧ keyBase key ∉ baseSet other
      ∧ ('.' ∈ key.toList ∨ ∀ name ∈ side, '.' ∈ name.toList → baseOf name ≠ keyBase key)
  /-- Each key is spelled as at its first occurrence. -/
  spelled : ∀ spelling ∈ spellings, firstSpelling? side (lower spelling) = some spelling

theorem Reconciliation.map_lower_unmatched (side other : List String) :
  ((unmatched (.ofNames side) (.ofNames other)).map Item.spelling).map lower
    = (unmatched (.ofNames side) (.ofNames other)).map Item.key
  := by
  rw [List.map_map]
  apply List.map_congr_left
  intro item hitem
  apply (Index.ofNames_isProper side item (mem_unmatched_iff.mp hitem).1).lower_spelling

theorem Reconciliation.unmatched_exact (side other : List String) :
  Unmatched side other ((unmatched (.ofNames side) (.ofNames other)).map Item.spelling)
  := by
  constructor
  · rw [map_lower_unmatched]
    apply map_key_unmatched_pairwise
  · intro key
    rw [map_lower_unmatched, mem_map_key_unmatched_iff, Survives, superseded_iff, keyQualified,
      List.contains_iff_mem]
    constructor
    · rintro ⟨⟨hkey, hsurvives⟩, hbase⟩
      use hkey, hbase
    · rintro ⟨hkey, hbase, hsurvives⟩
      use ⟨hkey, hsurvives⟩
  · intro spelling hspelling
    obtain ⟨item, hitem, rfl⟩ := List.mem_map.mp hspelling
    have hentry := (mem_unmatched_iff.mp hitem).1
    rw [(Index.ofNames_isProper side item hentry).lower_spelling]
    apply Index.firstSpelling?_of_mem hentry

namespace Unmatched

variable {side other spellings : List String}

/-- A spelling is that of a name of the side. -/
theorem exists_of_mem (h : Unmatched side other spellings) {spelling : String}
    (hspelling : spelling ∈ spellings) :
  ∃ name ∈ side, isBlankText name = false ∧ strip name = spelling
    ∧ lower spelling = keyOf name
  := by
  obtain ⟨name, hname, hstrip⟩ := Option.map_eq_some_iff.mp (h.spelled spelling hspelling)
  have hkey := List.find?_some hname
  rw [Bool.and_eq_true, Bool.not_eq_true', beq_iff_eq] at hkey
  exact ⟨name, List.mem_of_find?_eq_some hname, hkey.1, hstrip, hkey.2.symm⟩

theorem baseOf_mem (h : Unmatched side other spellings) {spelling : String}
    (hspelling : spelling ∈ spellings) :
  baseOf spelling ∈ baseSet side ∧ baseOf spelling ∉ baseSet other
  := by
  obtain ⟨name, hname, hblank, rfl, hkey⟩ := h.exists_of_mem hspelling
  obtain ⟨-, hother, -⟩ := (h.mem_iff _).mp (List.mem_map_of_mem hspelling)
  rw [hkey] at hother
  rw [baseOf_strip]
  use ⟨name, hname, hblank, rfl⟩, hother

/-- Names that are reported on different sides have different bases. -/
theorem baseOf_ne_of_exchanged {spellings' : List String} (h : Unmatched side other spellings)
    (h' : Unmatched other side spellings') {first second : String} (hfirst : first ∈ spellings)
    (hsecond : second ∈ spellings') :
  baseOf first ≠ baseOf second
  := by
  intro heq
  apply (h.baseOf_mem hfirst).2
  rw [heq]
  apply (h'.baseOf_mem hsecond).1

/-- A bare name is not reported beside a qualified name of the same base. -/
theorem baseOf_ne (h : Unmatched side other spellings) {qualified bare : String}
    (hqualified : qualified ∈ spellings) (hpoint : '.' ∈ qualified.toList)
    (hbare : bare ∈ spellings) (hpoint' : '.' ∉ bare.toList) :
  baseOf qualified ≠ baseOf bare
  := by
  obtain ⟨name, hname, -, rfl, -⟩ := h.exists_of_mem hqualified
  obtain ⟨name', -, -, rfl, hkey'⟩ := h.exists_of_mem hbare
  obtain ⟨-, -, hsuperseded⟩ := (h.mem_iff _).mp (List.mem_map_of_mem hbare)
  rw [point_mem_lower_iff] at hsuperseded
  have hne := hsuperseded.resolve_left hpoint' name hname ((mem_strip_iff (by decide)).mp hpoint)
  rw [hkey'] at hne
  rw [baseOf_strip, baseOf_strip]
  apply hne

/-- Every qualified name whose base is not on the other side is reported. -/
theorem keyOf_mem (h : Unmatched side other spellings) {name : String} (hname : name ∈ side)
    (hpoint : '.' ∈ name.toList) (hbase : baseOf name ∉ baseSet other) :
  keyOf name ∈ spellings.map lower
  := by
  apply (h.mem_iff _).mpr
  use mem_keySet hname (isBlankText_of_point_mem hpoint), hbase
  apply Or.inl (point_mem_keyOf_iff.mpr hpoint)

theorem nodup (h : Unmatched side other spellings) :
  spellings.Nodup
  := by
  apply List.Nodup.of_map lower
  apply h.sorted.imp
  intro first second hlt heq
  rw [heq] at hlt
  apply String.lt_irrefl _ hlt

end Unmatched

/-! ### Both sides -/

theorem Problem.message_undocumented_ne_undeclared (itemType item other : String) :
  (undocumented itemType item).message ≠ (undeclared itemType other).message
  := by
  intro h
  have hwording : itemType ++ " in Terraform but missing in markdown: " ++ item
      = itemType ++ " in markdown but missing in Terraform: " ++ other := h
  rw [String.append_assoc, String.append_assoc, String.append_right_inj] at hwording
  have hchars := congrArg String.toList hwording
  simp at hchars

/-- The problems of a comparison have different wordings if the names that it reports on each side
are different. -/
theorem nodup_map_message {undocumented undeclared : List String} (h : undocumented.Nodup)
    (h' : undeclared.Nodup) (itemType : String) :
  ((undocumented.map (Problem.undocumented itemType)
    ++ undeclared.map (Problem.undeclared itemType)).map Problem.message).Nodup
  := by
  rw [List.map_append, List.map_map, List.map_map, List.nodup_append]
  refine ⟨?_, ?_, ?_⟩
  · apply h.map
    intro first second heq
    apply (String.append_right_inj _).mp heq
  · apply h'.map
    intro first second heq
    apply (String.append_right_inj _).mp heq
  · intro message hmessage message' hmessage'
    obtain ⟨item, -, rfl⟩ := List.mem_map.mp hmessage
    obtain ⟨other, -, rfl⟩ := List.mem_map.mp hmessage'
    apply Problem.message_undocumented_ne_undeclared

/-- What declared and documented names show: problems with names that are not documented, followed
by problems with names that are not declared. On both sides these are exactly the names without a
counterpart, in strictly increasing order of their keys and in their first spelling. So no bare name
is reported beside a qualified name of the same base, every qualified name whose base is not on the
other side is reported, and no two problems have the same wording. -/
theorem reconcile_reports_exactly (declared documented : List String) (itemType : String) :
  ∃ undocumented undeclared : List String,
    reconcile declared documented itemType
        = undocumented.map (.undocumented itemType) ++ undeclared.map (.undeclared itemType)
      ∧ Unmatched declared documented undocumented
      ∧ Unmatched documented declared undeclared
      ∧ (∀ qualified ∈ undocumented ++ undeclared, ∀ bare ∈ undocumented ++ undeclared,
        '.' ∈ qualified.toList → '.' ∉ bare.toList → baseOf qualified ≠ baseOf bare)
      ∧ (∀ name ∈ declared, '.' ∈ name.toList → baseOf name ∉ baseSet documented →
        keyOf name ∈ undocumented.map lower)
      ∧ (∀ name ∈ documented, '.' ∈ name.toList → baseOf name ∉ baseSet declared →
        keyOf name ∈ undeclared.map lower)
      ∧ ((reconcile declared documented itemType).map Problem.message).Nodup
  := by
  have h := Reconciliation.unmatched_exact declared documented
  have h' := Reconciliation.unmatched_exact documented declared
  refine ⟨_, _, ?_, h, h', ?_, ?_, ?_, ?_⟩
  · rw [List.map_map, List.map_map]
    rfl
  · intro qualified hqualified bare hbare hpoint hpoint'
    rcases List.mem_append.mp hqualified with hmem | hmem
    · rcases List.mem_append.mp hbare with hmem' | hmem'
      · apply h.baseOf_ne hmem hpoint hmem' hpoint'
      · apply h.baseOf_ne_of_exchanged h' hmem hmem'
    · rcases List.mem_append.mp hbare with hmem' | hmem'
      · apply h'.baseOf_ne_of_exchanged h hmem hmem'
      · apply h'.baseOf_ne hmem hpoint hmem' hpoint'
  · intro name
    apply h.keyOf_mem
  · intro name
    apply h'.keyOf_mem
  · have hnodup := nodup_map_message h.nodup h'.nodup itemType
    rw [List.map_map, List.map_map] at hnodup
    apply hnodup

end ReadmeAudit
