import ReadmeAudit.Pairs
import ReadmeAudit.Setting

/-!
# Documents of options

A document of options is a table that is filled statement by statement. A statement opens a table by
a header, opens the next table of a list of tables, or sets a value under a path of names. The marks
of a `Document` record which tables must not be opened again and which values must not be extended.
-/

namespace ReadmeAudit.Toml

/-- A path of names. -/
abbrev Key := List String

/-- The fields of a table. -/
abbrev Fields := List (String × Setting)

/-- What a mark forbids. -/
inductive Mark where
  /-- Opening the table again. -/
  | explicit
  /-- Extending the value, or what is below it. -/
  | frozen
deriving Repr, DecidableEq

/-- A document. -/
structure Document where
  /-- The table filled so far. -/
  fields : Fields
  /-- The marks. -/
  marks : List (Key × Mark)
  /-- The marks that are made as soon as the next header is read. -/
  pending : List (Key × Mark)
  /-- The path of the table that is open. -/
  header : Key

/-! ### Fields -/

/-- The fields with a change to the table at the end of a path, which is made where there is none.
If lists may be entered, the last of their tables is meant. -/
def alter (lists : Bool) (change : Fields → Option Fields) : Key → Fields → Option Fields
  | [], fields => change fields
  | name :: path, fields =>
    match fields.lookup name with
    | none => (alter lists change path []).map fun inner => Pairs.put name (.table inner) fields
    | some (.table inner) =>
      (alter lists change path inner).map fun inner => Pairs.put name (.table inner) fields
    | some (.list items) =>
      match lists, items.getLast? with
      | true, some (.table inner) =>
        (alter lists change path inner).map fun inner =>
          Pairs.put name (.list (items.dropLast ++ [.table inner])) fields
      | _, _ => none
    | some _ => none

/-- The fields with a value under a name that is not there. -/
def insert (name : String) (value : Setting) (fields : Fields) : Option Fields :=
  if (fields.lookup name).isSome then none else some (Pairs.put name value fields)

/-- The fields with a table added to the list of a name. -/
def appendTable (name : String) (fields : Fields) : Option Fields :=
  match fields.lookup name with
  | none => some (Pairs.put name (.list [.table []]) fields)
  | some (.list items) => some (Pairs.put name (.list (items ++ [.table []])) fields)
  | some _ => none

/-- Whether a value is a list or a table. -/
def isContainer : Setting → Bool
  | .list _ | .table _ => true
  | _ => false

/-! ### Statements -/

namespace Document

/-- The empty document. -/
def empty : Document := ⟨[], [], [], []⟩

/-- Whether a path has a mark. What is below a frozen value is frozen. -/
def isMarked (marks : List (Key × Mark)) (key : Key) (mark : Mark) : Bool :=
  marks.any fun (path, made) =>
    made = mark && (path = key || (mark = .frozen && path.isPrefixOf key))

/-- The document with the pending marks made. -/
def settle (document : Document) : Document :=
  { document with marks := document.pending ++ document.marks, pending := [] }

/-- The document after the header of a table. -/
def openTable (key : Key) (document : Document) : Option Document :=
  let document := document.settle
  if isMarked document.marks key .explicit || isMarked document.marks key .frozen then none
  else
    (alter true some key document.fields).map fun fields =>
      { document with
        fields := fields
        marks := (key, .explicit) :: document.marks
        header := key }

/-- The document after the header of a table in a list. -/
def openElement (key : Key) (document : Document) : Option Document :=
  let document := document.settle
  if isMarked document.marks key .frozen then none
  else
    (alter true (appendTable (key.getLastD "")) key.dropLast document.fields).map fun fields =>
      { document with
        fields := fields
        marks := (key, .explicit) :: document.marks.filter fun (path, _) => !key.isPrefixOf path
        header := key }

/-- The paths from the open table to the tables that a path of names leads through. -/
def passed (header key : Key) : List Key :=
  (List.range (key.length - 1)).map fun length => header ++ key.take (length + 1)

/-- The document with a value under a path in the open table. -/
def assign (key : Key) (value : Setting) (document : Document) : Option Document :=
  let through := passed document.header key
  let parent := document.header ++ key.dropLast
  if through.any fun path => isMarked document.marks path .explicit then none
  else if isMarked document.marks parent .frozen then none
  else
    (alter true (insert (key.getLastD "") value) parent document.fields).map fun fields =>
      { document with
        fields := fields
        marks := if isContainer value then (document.header ++ key, .frozen) :: document.marks
          else document.marks
        pending := through.map (·, .explicit) ++ document.pending }

end Document

/-- An inline table that is filled, with its frozen values. -/
structure Inline where
  /-- The fields. -/
  fields : Fields
  /-- The marks. -/
  marks : List (Key × Mark)

/-- An inline table with a value under a path. -/
def Inline.assign (key : Key) (value : Setting) (inline : Inline) : Option Inline :=
  if Document.isMarked inline.marks key .frozen then none
  else
    (alter false (insert (key.getLastD "") value) key.dropLast inline.fields).map fun fields =>
      ⟨fields, if isContainer value then (key, .frozen) :: inline.marks else inline.marks⟩

end ReadmeAudit.Toml
