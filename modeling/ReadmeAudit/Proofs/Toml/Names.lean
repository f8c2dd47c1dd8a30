import Mathlib.Data.List.Basic
import Mathlib.Data.List.Nodup
import Mathlib.Tactic.Use
import ReadmeAudit.Proofs.Pairs
import ReadmeAudit.Toml.Reader

/-!
# Names in files of options

A file of options that can be read has no table with two fields of the same name, at any depth.
`Unambiguous` says this of a value. A document is filled by statements that put a value under a name
only where there is none, so that it stays unambiguous, and the values that are read for it are
unambiguous themselves.
-/

namespace ReadmeAudit

/-! ### What readers give -/

namespace Text.Reader

variable {α β : Type} {P : α → Prop} {Q : β → Prop}

/-- A reader gives values with a property if every value that it takes has it. -/
structure Gives (P : α → Prop) (reader : Reader α) : Prop where
  /-- A value that is taken has the property. -/
  of_run : ∀ {chars rest : List Char} {value : α}, reader.run chars = .ok (value, rest) → P value

theorem Gives.pure {value : α} (h : P value) :
  Gives P (Pure.pure value)
  := by
  constructor
  rintro chars rest _ ⟨⟩
  apply h

theorem Gives.throw (stop : Stop) :
  Gives P (MonadExcept.throw stop)
  := by
  constructor
  rintro chars rest value ⟨⟩

theorem Gives.fail :
  Gives P Reader.fail
  := Gives.throw _

/-- What a reader gives that goes on with a value of another. -/
theorem Gives.bind {reader : Reader α} {next : α → Reader β} (h : Gives P reader)
    (hnext : ∀ value, P value → Gives Q (next value)) :
  Gives Q (reader >>= next)
  := by
  constructor
  intro chars rest result hrun
  rw [StateT.run_bind] at hrun
  cases hvalue : reader.run chars with
  | error stop =>
      rw [hvalue] at hrun
      cases hrun
  | ok taken =>
      rw [hvalue] at hrun
      apply (hnext taken.1 (h.of_run hvalue)).of_run hrun

/-- What a reader gives that goes on after another, whatever that takes. -/
theorem Gives.after {reader : Reader α} {next : α → Reader β} (h : ∀ value, Gives Q (next value)) :
  Gives Q (reader >>= next)
  := by
  have hany : Gives (fun _ => True) reader := ⟨fun _ => trivial⟩
  apply hany.bind
  intro value _
  apply h value

theorem Gives.optional {reader : Reader α} (h : Gives P reader) :
  Gives (fun found => ∀ value ∈ found, P value) (Reader.optional reader)
  := by
  constructor
  intro chars rest found hrun
  simp only [Reader.optional, StateT.run] at hrun
  split at hrun
  · next value middle hvalue =>
    obtain ⟨rfl, rfl⟩ := Prod.mk.inj (Except.ok.inj hrun)
    rintro _ ⟨⟩
    apply h.of_run hvalue
  · obtain ⟨rfl, rfl⟩ := Prod.mk.inj (Except.ok.inj hrun)
    rintro _ ⟨⟩
  · cases hrun

end Text.Reader

namespace Toml

open Text Reader

/-! ### Unambiguous values -/

/-- A value is unambiguous if no table in it has two fields of the same name. -/
inductive Unambiguous : Setting → Prop where
  /-- The value is neither a list nor a table. -/
  | scalar {value : Setting} (h : isContainer value = false) : Unambiguous value
  /-- The elements of a list are. -/
  | list {items : List Setting} (h : ∀ item ∈ items, Unambiguous item) : Unambiguous (.list items)
  /-- The names of a table are distinct, and its values are unambiguous. -/
  | table {fields : Fields} (hnames : (fields.map Prod.fst).Nodup)
      (h : ∀ field ∈ fields, Unambiguous field.2) : Unambiguous (.table fields)

variable {name : String} {value : Setting} {fields : Fields}

namespace Unambiguous

theorem nil :
  Unambiguous (.table [])
  := by
  apply table
  · apply List.nodup_nil
  · intro field hfield
    cases hfield

theorem names_nodup (h : Unambiguous (.table fields)) :
  (fields.map Prod.fst).Nodup
  := by
  cases h with
  | scalar h => cases h
  | table hnames _ => apply hnames

theorem of_mem (h : Unambiguous (.table fields)) {field : String × Setting}
    (hfield : field ∈ fields) :
  Unambiguous field.2
  := by
  cases h with
  | scalar h => cases h
  | table _ h => apply h field hfield

theorem of_mem_list {items : List Setting} (h : Unambiguous (.list items)) {item : Setting}
    (hitem : item ∈ items) :
  Unambiguous item
  := by
  cases h with
  | scalar h => cases h
  | list h => apply h item hitem

theorem of_lookup (h : Unambiguous (.table fields)) (hlookup : fields.lookup name = some value) :
  Unambiguous value
  := h.of_mem (Pairs.mem_of_lookup hlookup)

theorem put (h : Unambiguous (.table fields)) (hvalue : Unambiguous value) :
  Unambiguous (.table (Pairs.put name value fields))
  := by
  apply table (Pairs.put_names_nodup h.names_nodup)
  intro field hfield
  rcases Pairs.mem_put hfield with rfl | hfield
  · apply hvalue
  · apply h.of_mem hfield

end Unambiguous

/-! ### Changes of tables -/

/-- A change of a table is safe if it keeps tables unambiguous. -/
def Safe (change : Fields → Option Fields) : Prop :=
  ∀ fields result, Unambiguous (.table fields) → change fields = some result →
    Unambiguous (.table result)

theorem some_safe :
  Safe some
  := by
  rintro fields _ h ⟨⟩
  apply h

theorem insert_safe (name : String) (hvalue : Unambiguous value) :
  Safe (insert name value)
  := by
  intro fields result h hresult
  rw [insert] at hresult
  split at hresult
  · cases hresult
  · obtain rfl := Option.some.inj hresult
    apply h.put hvalue

theorem appendTable_safe (name : String) :
  Safe (appendTable name)
  := by
  intro fields result h hresult
  rw [appendTable] at hresult
  split at hresult
  · obtain rfl := Option.some.inj hresult
    apply h.put
    apply Unambiguous.list
    intro item hitem
    obtain rfl := List.mem_singleton.mp hitem
    apply Unambiguous.nil
  · next items hlookup =>
    obtain rfl := Option.some.inj hresult
    apply h.put
    apply Unambiguous.list
    intro item hitem
    rcases List.mem_append.mp hitem with hitem | hitem
    · apply (h.of_lookup hlookup).of_mem_list hitem
    · obtain rfl := List.mem_singleton.mp hitem
      apply Unambiguous.nil
  · cases hresult

/-- A safe change at the end of a path is safe. -/
theorem alter_safe {change : Fields → Option Fields} (h : Safe change) (lists : Bool) (path : Key) :
  Safe (alter lists change path)
  := by
  induction path with
  | nil => apply h
  | cons name path ih =>
      intro fields result hfields hresult
      rw [alter] at hresult
      split at hresult
      · obtain ⟨inner, hinner, rfl⟩ := Option.map_eq_some_iff.mp hresult
        apply hfields.put (ih _ _ Unambiguous.nil hinner)
      · next inner hlookup =>
        obtain ⟨changed, hchanged, rfl⟩ := Option.map_eq_some_iff.mp hresult
        apply hfields.put (ih _ _ (hfields.of_lookup hlookup) hchanged)
      · next items hlookup =>
        have hitems := hfields.of_lookup hlookup
        split at hresult
        · next inner _ hlast =>
          obtain ⟨changed, hchanged, rfl⟩ := Option.map_eq_some_iff.mp hresult
          have hinner := hitems.of_mem_list (List.mem_of_getLast? hlast)
          apply hfields.put
          apply Unambiguous.list
          intro item hitem
          rcases List.mem_append.mp hitem with hitem | hitem
          · apply hitems.of_mem_list ((List.dropLast_sublist _).mem hitem)
          · obtain rfl := List.mem_singleton.mp hitem
            apply ih _ _ hinner hchanged
        · cases hresult
      · cases hresult

/-! ### Statements -/

namespace Document

/-- A document is unambiguous if its table is. -/
def IsUnambiguous (document : Document) : Prop :=
  Unambiguous (.table document.fields)

variable {document after : Document}

theorem IsUnambiguous.openTable {key : Key} (h : document.IsUnambiguous)
    (hafter : document.openTable key = some after) :
  after.IsUnambiguous
  := by
  rw [Document.openTable] at hafter
  split at hafter
  · cases hafter
  · obtain ⟨changed, hchanged, rfl⟩ := Option.map_eq_some_iff.mp hafter
    apply alter_safe some_safe _ _ _ _ h hchanged

theorem IsUnambiguous.openElement {key : Key} (h : document.IsUnambiguous)
    (hafter : document.openElement key = some after) :
  after.IsUnambiguous
  := by
  rw [Document.openElement] at hafter
  split at hafter
  · cases hafter
  · obtain ⟨changed, hchanged, rfl⟩ := Option.map_eq_some_iff.mp hafter
    apply alter_safe (appendTable_safe _) _ _ _ _ h hchanged

theorem IsUnambiguous.assign {key : Key} (h : document.IsUnambiguous)
    (hvalue : Unambiguous value) (hafter : document.assign key value = some after) :
  after.IsUnambiguous
  := by
  rw [Document.assign] at hafter
  split at hafter
  · cases hafter
  · split at hafter
    · cases hafter
    · obtain ⟨changed, hchanged, rfl⟩ := Option.map_eq_some_iff.mp hafter
      apply alter_safe (insert_safe _ hvalue) _ _ _ _ h hchanged

end Document

theorem Inline.assign_unambiguous {inline after : Inline} {key : Key}
    (h : Unambiguous (.table inline.fields)) (hvalue : Unambiguous value)
    (hafter : inline.assign key value = some after) :
  Unambiguous (.table after.fields)
  := by
  rw [Inline.assign] at hafter
  split at hafter
  · cases hafter
  · obtain ⟨changed, hchanged, rfl⟩ := Option.map_eq_some_iff.mp hafter
    apply alter_safe (insert_safe _ hvalue) _ _ _ _ h hchanged

/-! ### Values -/

theorem firstOf_gives {α : Type} {P : α → Prop} {readers : List (Reader α)}
    (h : ∀ reader ∈ readers, Gives P reader) :
  Gives P (firstOf readers)
  := by
  induction readers with
  | nil => apply Gives.fail
  | cons reader readers ih =>
      rw [firstOf]
      apply (h reader List.mem_cons_self).optional.bind
      intro found hfound
      cases found with
      | some value => apply Gives.pure (hfound value rfl)
      | none =>
          apply ih
          intro other hother
          apply h other (List.mem_cons_of_mem _ hother)

theorem basedNumber_gives (lead : String) (base : Nat) (p : Char → Bool) :
  Gives Unambiguous (basedNumber lead base p)
  := by
  apply Gives.after
  intro _
  apply Gives.after
  intro digits
  apply Gives.pure (.scalar rfl)

theorem wholeNumber_gives (negative : Bool) (digits : List Char) :
  Gives Unambiguous (wholeNumber negative digits)
  := by
  rw [wholeNumber]
  split
  · apply Gives.throw
  · apply Gives.pure (.scalar rfl)

theorem number_gives :
  Gives Unambiguous number
  := by
  apply Gives.after
  intro negative
  apply Gives.after
  intro zero
  extract_lets onward
  have honward : ∀ whole, Gives Unambiguous (onward whole) := by
    intro whole
    apply Gives.after
    intro fraction
    apply Gives.after
    intro power
    split
    · apply wholeNumber_gives
    · apply Gives.pure (.scalar rfl)
  split
  · apply Gives.after honward
  · apply Gives.after
    intro next
    apply Gives.after
    intro _
    apply Gives.after honward

theorem wordNumber_gives :
  Gives Unambiguous wordNumber
  := by
  apply Gives.after
  intro negative
  apply Gives.after
  intro infinite
  split
  · apply Gives.pure (.scalar rfl)
  · apply Gives.after
    intro _
    apply Gives.pure (.scalar rfl)

/-- A date, a time or a number is neither a list nor a table. -/
theorem scalar_gives :
  Gives Unambiguous scalar
  := by
  rw [scalar]
  apply Gives.after
  intro found
  cases found with
  | some moment => apply Gives.pure (.scalar rfl)
  | none =>
      apply firstOf_gives
      simp only [List.forall_mem_cons]
      use basedNumber_gives _ _ _, basedNumber_gives _ _ _, basedNumber_gives _ _ _, number_gives,
        wordNumber_gives
      apply List.forall_mem_nil

/-! ### Nested values -/

/-- What the readers of a depth give: values, the elements of lists and inline tables are
unambiguous. -/
structure GiveUnambiguous (depth : Nat) : Prop where
  /-- Values are. -/
  value (level : Nat) : Gives Unambiguous (Toml.value depth level)
  /-- Elements are. -/
  elements (level : Nat) : Gives (fun items => ∀ item ∈ items, Unambiguous item)
    (Toml.elements depth level)
  /-- Tables are, with the fields that they have already. -/
  members (level : Nat) (inline : Inline) (h : Unambiguous (.table inline.fields)) :
    Gives Unambiguous (Toml.members depth level inline)

variable {depth : Nat}

theorem value_succ_gives (h : GiveUnambiguous depth) (level : Nat) :
  Gives Unambiguous (Toml.value (depth + 1) level)
  := by
  rw [Toml.value]
  split
  · apply Gives.throw
  · apply Gives.after
    intro next
    split
    · apply Gives.after
      intro text
      apply Gives.pure (.scalar rfl)
    · apply Gives.after
      intro text
      apply Gives.pure (.scalar rfl)
    · apply Gives.after
      intro _
      apply Gives.pure (.scalar rfl)
    · apply Gives.after
      intro _
      apply Gives.pure (.scalar rfl)
    · apply Gives.after
      intro _
      apply Gives.after
      intro _
      apply (h.elements _).bind
      intro items hitems
      apply Gives.pure (.list hitems)
    · apply Gives.after
      intro _
      apply Gives.after
      intro _
      apply Gives.after
      intro empty
      split
      · apply Gives.pure Unambiguous.nil
      · apply h.members _ _ Unambiguous.nil
    · apply scalar_gives

theorem elements_succ_gives (h : GiveUnambiguous depth) (level : Nat) :
  Gives (fun items => ∀ item ∈ items, Unambiguous item) (Toml.elements (depth + 1) level)
  := by
  rw [elements]
  apply Gives.after
  intro ended
  split
  · apply Gives.pure
    apply List.forall_mem_nil
  · apply (h.value level).bind
    intro first hfirst
    apply Gives.after
    intro _
    apply Gives.after
    intro more
    split
    · apply Gives.after
      intro _
      apply (h.elements level).bind
      intro items hitems
      apply Gives.pure
      apply List.forall_mem_cons.mpr ⟨hfirst, hitems⟩
    · apply Gives.after
      intro _
      apply Gives.pure
      apply List.forall_mem_singleton.mpr hfirst

theorem members_succ_gives (h : GiveUnambiguous depth) (level : Nat) {inline : Inline}
    (hinline : Unambiguous (.table inline.fields)) :
  Gives Unambiguous (Toml.members (depth + 1) level inline)
  := by
  rw [members]
  apply Gives.after
  intro path
  apply Gives.after
  intro _
  apply Gives.after
  intro _
  apply (h.value level).bind
  intro given hgiven
  split
  · apply Gives.fail
  · next after hafter =>
    have hunambiguous := Inline.assign_unambiguous hinline hgiven hafter
    apply Gives.after
    intro _
    apply Gives.after
    intro more
    split
    · apply Gives.after
      intro _
      apply h.members _ _ hunambiguous
    · apply Gives.after
      intro _
      apply Gives.pure hunambiguous

/-- Readers of any depth give what is unambiguous: each calls those of a smaller depth. -/
theorem giveUnambiguous (depth : Nat) :
  GiveUnambiguous depth
  := by
  induction depth with
  | zero =>
      constructor
      · intro level
        apply Gives.fail
      · intro level
        apply Gives.fail
      · intro level inline h
        apply Gives.fail
  | succ depth ih =>
      constructor
      · apply value_succ_gives ih
      · apply elements_succ_gives ih
      · intro level inline h
        apply members_succ_gives ih level h

/-! ### Lines -/

theorem ofOption_gives {P : Document → Prop} {result : Option Document}
    (h : ∀ document, result = some document → P document) :
  Gives P (statement.ofOption result)
  := by
  cases result with
  | none => apply Gives.fail
  | some document => apply Gives.pure (h document rfl)

theorem statement_gives {document : Document} (h : document.IsUnambiguous) :
  Gives Document.IsUnambiguous (statement document)
  := by
  rw [statement]
  apply Gives.after
  intro chars
  split
  · apply Gives.after
    intro _
    apply Gives.after
    intro _
    apply Gives.after
    intro path
    apply Gives.after
    intro _
    apply ofOption_gives
    intro after hafter
    apply h.openElement hafter
  · apply Gives.after
    intro _
    apply Gives.after
    intro _
    apply Gives.after
    intro path
    apply Gives.after
    intro _
    apply ofOption_gives
    intro after hafter
    apply h.openTable hafter
  · apply Gives.pure h
  · apply Gives.pure h
  · apply Gives.pure h
  · apply Gives.after
    intro path
    apply Gives.after
    intro _
    apply Gives.after
    intro _
    apply ((giveUnambiguous _).value 0).bind
    intro given hgiven
    apply ofOption_gives
    intro after hafter
    apply h.assign hgiven hafter

theorem lines_gives (bound : Nat) {document : Document} (h : document.IsUnambiguous) :
  Gives Document.IsUnambiguous (lines bound document)
  := by
  induction bound generalizing document with
  | zero => apply Gives.fail
  | succ bound ih =>
      rw [lines]
      apply Gives.after
      intro _
      apply (statement_gives h).bind
      intro after hafter
      apply Gives.after
      intro _
      apply Gives.after
      intro _
      apply Gives.after
      intro chars
      split
      · apply Gives.pure hafter
      · apply Gives.after
        intro _
        apply Gives.after
        intro _
        apply ih hafter

/-- A file of options that can be read has no table with two fields of the same name. -/
theorem parse_unambiguous {text : String} (h : parse text = .ok fields) :
  Unambiguous (.table fields)
  := by
  rw [parse, readAll] at h
  split at h
  · next hrun =>
    cases h
    have hempty : Document.empty.IsUnambiguous := Unambiguous.nil
    apply (lines_gives _ hempty).of_run hrun
  · cases h
  · cases h

end Toml

end ReadmeAudit
