/-!
# First occurrences

`distinctBy` keeps of a list the elements whose key no element before them has. It is how the
entries of an index and the sections found under several names are counted once.
-/

namespace ReadmeAudit

/-- The elements whose key is neither among those seen nor that of an element before. -/
def distinctAfter {α κ : Type} [BEq κ] (key : α → κ) : (seen : List κ) → List α → List α
  | _, [] => []
  | seen, item :: rest =>
    if seen.contains (key item) then distinctAfter key seen rest
    else item :: distinctAfter key (key item :: seen) rest

/-- The elements without those whose key is that of an element before. -/
def distinctBy {α κ : Type} [BEq κ] (key : α → κ) (items : List α) : List α :=
  distinctAfter key [] items

end ReadmeAudit
