/-!
# Similarity of texts

How alike two texts are is measured by the characters that match when the longest common run is
taken first and the parts on either side of it are compared in the same way. `closeMatches` picks
the candidates that are most like a word.
-/

namespace ReadmeAudit.Text

/-- The number of characters at the beginning that two lists have in common. -/
def commonLead : List Char → List Char → Nat
  | c :: rest, d :: others => if c = d then commonLead rest others + 1 else 0
  | _, _ => 0

/-- A run that two lists have in common. -/
structure CommonRun where
  /-- The position in the first list. -/
  first : Nat
  /-- The position in the second list. -/
  second : Nat
  /-- The length. -/
  length : Nat
deriving Repr, DecidableEq

/-- The longest run that two lists have in common, the earliest in the first list and then in the
second if there are several. -/
def longestRun (chars others : List Char) : CommonRun :=
  (List.range chars.length).foldl (fun best first =>
    (List.range others.length).foldl (fun best second =>
      let length := commonLead (chars.drop first) (others.drop second)
      if best.length < length then ⟨first, second, length⟩ else best) best) ⟨0, 0, 0⟩

/-- The number of matching characters of two lists, for a bound on the number of runs that are
nested. -/
def matchingUpTo : Nat → List Char → List Char → Nat
  | 0, _, _ => 0
  | bound + 1, chars, others =>
    let run := longestRun chars others
    if run.length = 0 then 0
    else matchingUpTo bound (chars.take run.first) (others.take run.second) + run.length
      + matchingUpTo bound (chars.drop (run.first + run.length))
          (others.drop (run.second + run.length))

/-- The share of matching characters in two texts. -/
def similarity (text other : String) : Rat :=
  let total := text.length + other.length
  if total = 0 then 1
  else ((2 * matchingUpTo text.length text.toList other.toList : Nat) : Rat) / (total : Rat)

/-- The share of matching characters from which texts are alike. -/
def closeness : Rat := 3 / 5

/-- At most three candidates that are like a word, in the order of their names. -/
def closeMatches (word : String) (candidates : List String) : List String :=
  let scored := (candidates.map fun candidate => (similarity candidate word, candidate)).filter
    fun (score, _) => decide (closeness ≤ score)
  let ranked := scored.mergeSort fun a b => decide (b.1 < a.1 ∨ (a.1 = b.1 ∧ b.2 ≤ a.2))
  ((ranked.take 3).map (·.2)).mergeSort fun a b => decide (a ≤ b)

end ReadmeAudit.Text
