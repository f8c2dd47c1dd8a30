import ReadmeAudit.Distinct
import ReadmeAudit.Text.Blank
import ReadmeAudit.Text.Case

/-!
# Indexes of items

Items are named by their type, or qualified by a label as in `type.label`, and names are compared
without regard to case and surrounding blanks. An `Index` holds the items that a list of names
denotes: the first spelling of a name counts, and a bare name is dropped when a qualified name of
the same base is there. `Index.has` looks an item up, by its name or by its base.
-/

namespace ReadmeAudit

open Text

/-- An item by its name. -/
structure Item where
  /-- The name as written, without surrounding blanks. -/
  spelling : String
  /-- The name in lower case. -/
  key : String
  /-- The part of the key ahead of the first point, without surrounding blanks. -/
  base : String
  /-- Whether the name has a point. -/
  qualified : Bool
deriving Repr, DecidableEq

namespace Item

/-- The item of a name, unless the name is blank. -/
def ofName? (name : String) : Option Item :=
  let spelling := strip name
  if spelling.isEmpty then none
  else
    let key := lower spelling
    some ⟨spelling, key, strip (before '.' key), key.toList.contains '.'⟩

end Item

/-- An index of items. -/
structure Index where
  /-- The items in the order of their first occurrence, no two with the same key. -/
  entries : List Item
deriving Repr, DecidableEq

namespace Index

/-- The items without those whose key is that of an item before. -/
def distinct (items : List Item) : List Item :=
  distinctBy Item.key items

/-- The items without the bare ones that a qualified one of the same base supersedes. -/
def prune (items : List Item) : List Item :=
  items.filter fun item =>
    item.qualified || !items.any fun other => other.qualified && other.base == item.base

/-- The index of a list of names. -/
def ofNames (names : List String) : Index :=
  ⟨prune (distinct (names.filterMap Item.ofName?))⟩

/-- The index of the names that are given, if any are. -/
def ofGiven (names : Option (List String)) : Index :=
  ofNames (names.getD [])

/-- The number of entries. -/
def size (index : Index) : Nat :=
  index.entries.length

/-- Groups of items by base with one more item: it comes last in the group of its base, or makes a
new group after the others. -/
def file : (groups : List (String × List Item)) → (item : Item) → List (String × List Item)
  | [], item => [(item.base, [item])]
  | (base, group) :: groups, item =>
    if base = item.base then (base, group ++ [item]) :: groups
    else (base, group) :: file groups item

/-- The entries grouped by their bases. -/
def byBase (index : Index) : List (String × List Item) :=
  index.entries.foldl file []

/-- The entry of a key. -/
def withKey? (index : Index) (key : String) : Option Item :=
  index.entries.find? (·.key == key)

/-- The entries of a base. -/
def withBase (index : Index) (base : String) : List Item :=
  (index.byBase.lookup base).getD []

/-- Whether an item is there, by its key or by its base. -/
def has (index : Index) (item : Item) : Bool :=
  (index.withKey? item.key).isSome || !(index.withBase item.base).isEmpty

/-- The entries in the order of their keys. -/
def sorted (index : Index) : List Item :=
  index.entries.mergeSort fun a b => decide (a.key ≤ b.key)

end Index

end ReadmeAudit
