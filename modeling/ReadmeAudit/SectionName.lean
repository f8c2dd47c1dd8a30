import ReadmeAudit.Text.Blank
import ReadmeAudit.Text.Case
import ReadmeAudit.Text.EditDistance

/-!
# Names of sections

Authors do not always write the heading of a section the way it is expected. `SectionName.denotes`
says whether a heading denotes a section, tolerating case, a plural and small typing errors; it is
used to look sections up. `SectionName.resembles` says whether a heading is likely a misspelling of
a section, where case counts; it is used to report misspellings.
-/

namespace ReadmeAudit.SectionName

open Text

/-- The greatest edit distance that counts as a typing error. -/
def maxTypos : Nat := 2

/-- The lower-case names of the two sections that together document inputs. -/
def splitInputs : List String := ["required inputs", "optional inputs"]

/-- Whether a heading denotes the section of an expected name. -/
def denotes (observed expected : String) : Bool :=
  let observed := strip observed
  let expected := strip expected
  if observed.isEmpty || expected.isEmpty then false
  else
    let seen := lower observed
    let wanted := lower expected
    seen == wanted || seen == wanted ++ "s" || seen ++ "s" == wanted
      || (expected == "Inputs" && splitInputs.contains seen)
      || editDistance seen wanted ≤ maxTypos

/-- Whether a heading is, or is likely a misspelling of, an expected name. -/
def resembles (found expected : String) : Bool :=
  found == expected || found ++ "s" == expected || found == expected ++ "s"
    || editDistance found expected ≤ maxTypos || lower found == lower expected

end ReadmeAudit.SectionName
