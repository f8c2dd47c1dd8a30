/-!
# Edit distance

The edit distance of two texts is the least number of insertions, deletions and substitutions of
single characters that turn one into the other. `editDistanceChars` computes it row by row: the row
of a text lists the distances from it to every beginning of the other text. `editDistance` lets the
rows run along the shorter of the two texts, and does without them if that is empty.
-/

namespace ReadmeAudit.Text

/-- The entries of the row of a text extended by `c` that follow the entry `left`, where `corner`
is the entry of the row of the text itself above `left`, and `above` the entries after it. -/
def nextEntries (c : Char) : (corner left : Nat) → (target : List Char) → (above : List Nat) →
    List Nat
  | corner, left, d :: target, up :: above =>
    let entry := min (min (up + 1) (left + 1)) (corner + if c = d then 0 else 1)
    entry :: nextEntries c up entry target above
  | _, _, _, _ => []

/-- The row of a text extended by `c`, from the row of the text. -/
def nextRow (target : List Char) (row : List Nat) (c : Char) : List Nat :=
  match row with
  | [] => []
  | corner :: above => (corner + 1) :: nextEntries c corner (corner + 1) target above

/-- The row of a text: its distances to the beginnings of `target`, shortest first. -/
def distanceRow (source target : List Char) : List Nat :=
  source.foldl (nextRow target) (List.range (target.length + 1))

/-- The edit distance of two lists of characters. -/
def editDistanceChars (source target : List Char) : Nat :=
  (distanceRow source target).getLastD 0

/-- The edit distance of a list of characters to one that is not longer. -/
def distanceToShorter (longer shorter : List Char) : Nat :=
  if shorter.isEmpty then longer.length else editDistanceChars longer shorter

/-- The edit distance of two texts. -/
def editDistance (source target : String) : Nat :=
  if source.toList.length < target.toList.length then
    distanceToShorter target.toList source.toList
  else distanceToShorter source.toList target.toList

end ReadmeAudit.Text
