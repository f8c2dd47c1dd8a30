import ReadmeAudit.Readme.Content

/-!
# Sessions

A README is asked many questions during an audit, and often about the same sections. A session
keeps a `Memo` of the sections that each name was found to denote, so that a name is looked up
once. The answers are those of the queries on the README itself.
-/

namespace ReadmeAudit

open Text

/-- What a session remembers. -/
structure Memo where
  /-- Whether a name, as it was given, denotes a section. -/
  present : List (String × Bool)
  /-- The sections that a name, without surrounding blanks, denotes. -/
  found : List (String × List Section)

namespace Memo

/-- Nothing remembered. -/
def empty : Memo := ⟨[], []⟩

end Memo

/-- A computation that remembers. -/
abbrev Session := StateM Memo

namespace Session

/-- The sections that a name denotes. -/
def denoted (readme : Readme) (name : String) : Session (List Section) := do
  let key := strip name
  if key.isEmpty then return []
  match (← get).found.lookup key with
  | some found => return found
  | none =>
    let found := readme.denoted name
    modify fun memo => { memo with found := (key, found) :: memo.found }
    return found

/-- The sections that each of several names denotes. -/
def denotedAll (readme : Readme) : (names : List String) → Session (List (List Section))
  | [] => return []
  | name :: names => do
    let found ← denoted readme name
    let others ← denotedAll readme names
    return found :: others

/-- Whether a name denotes a section. -/
def hasSection (readme : Readme) (name : String) : Session Bool := do
  match (← get).present.lookup name with
  | some answer => return answer
  | none =>
    let found ← denoted readme name
    let answer := !found.isEmpty
    modify fun memo => { memo with present := (name, answer) :: memo.present }
    return answer

/-- Whether one of several names denotes a section. The names after the first one that does are not
looked up. -/
def hasAnySection (readme : Readme) : (names : List String) → Session Bool
  | [] => return false
  | name :: names => do
    if ← hasSection readme name then return true else hasAnySection readme names

/-- The items that the sections of some names document. -/
def items (readme : Readme) (names : List String) : Session (List String) := do
  return readme.itemsIn names (← denotedAll readme names)

/-- The resources and data sources that the README documents. -/
def inventory (readme : Readme) : Session (Except ExtractionError Inventory) := do
  return readme.inventoryIn (Section.merge (← denotedAll readme ["Resources"]))

/-- The problems of the tables of the sections with contracts. -/
def tableProblems (readme : Readme) : Session (List Problem) := do
  let found ← denotedAll readme (Contract.all.map (·.name))
  return (Contract.all.zip found).flatMap fun (contract, sections) =>
    sections.flatMap (Section.tableProblems contract)

end Session

end ReadmeAudit
