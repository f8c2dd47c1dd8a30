/-!
# Lists of names with values

The entries of a directory and the fields of tables and objects are lists of pairs, each of a name
and a value, in order. `Pairs.put` sets the value of a name.
-/

namespace ReadmeAudit.Pairs

/-- The pairs with a value set for a name, in the old place of the name if it has one. -/
def put {α β : Type} [DecidableEq α] (name : α) (value : β) : List (α × β) → List (α × β)
  | [] => [(name, value)]
  | (other, old) :: rest =>
    if other = name then (name, value) :: rest else (other, old) :: put name value rest

end ReadmeAudit.Pairs
