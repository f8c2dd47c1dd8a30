/-!
# Sets of code points

A property of characters that a standard lists, such as being punctuation, is given by the
maximal intervals of code points that have it. The intervals are written in hexadecimal, as in
`21-2F 3A-40 5B`, in increasing order, and `Ranges.contains` finds a code point among them by
bisection.
-/

namespace ReadmeAudit.Text

/-- The value of a hexadecimal digit, and zero for any other character. -/
def hexDigit (c : Char) : Nat :=
  if '0' ≤ c ∧ c ≤ '9' then c.toNat - '0'.toNat
  else if 'A' ≤ c ∧ c ≤ 'F' then c.toNat - 'A'.toNat + 10
  else if 'a' ≤ c ∧ c ≤ 'f' then c.toNat - 'a'.toNat + 10
  else 0

/-- The number that a list of hexadecimal digits denotes. -/
def hexValue (digits : List Char) : Nat :=
  digits.foldl (fun value c => value * 16 + hexDigit c) 0

/-- A set of code points, by its maximal intervals in increasing order. -/
structure Ranges where
  /-- The first and the last code point of each interval. -/
  bounds : Array (Nat × Nat)

namespace Ranges

/-- The interval that `first-last`, or a single code point, denotes. -/
def parseItem (item : String) : Nat × Nat :=
  match item.splitOn "-" with
  | [first, last] => (hexValue first.toList, hexValue last.toList)
  | _ => (hexValue item.toList, hexValue item.toList)

/-- The set that lines of intervals denote. -/
def ofLines (lines : List String) : Ranges :=
  ⟨(lines.flatMap fun line => (line.splitOn " ").map parseItem).toArray⟩

/-- Bisection between the interval numbers `low` and `high`, with `steps` halvings left. -/
def search (bounds : Array (Nat × Nat)) (code : Nat) : (steps low high : Nat) → Option Nat
  | 0, _, _ => none
  | steps + 1, low, high =>
    if low < high then
      let middle := (low + high) / 2
      match bounds[middle]? with
      | none => none
      | some (first, last) =>
        if code < first then search bounds code steps low middle
        else if last < code then search bounds code steps (middle + 1) high
        else some middle
    else none

/-- Whether a code point lies in one of the intervals. -/
def containsCode (ranges : Ranges) (code : Nat) : Bool :=
  (search ranges.bounds code (ranges.bounds.size + 1) 0 ranges.bounds.size).isSome

/-- Whether a character belongs to the set. -/
def contains (ranges : Ranges) (c : Char) : Bool :=
  ranges.containsCode c.toNat

end Ranges

end ReadmeAudit.Text
