import ReadmeAudit.Text.Blank
import ReadmeAudit.Text.Number

/-!
# Readers

A `Reader` takes a value from the beginning of a list of characters, or fails. The readers of this
module are the smallest ones, of which the readers of the formats are made. A reader that finds
something else ahead than it expects may leave it to another one. With any other failure the text as
a whole is given up.
-/

namespace ReadmeAudit.Text

/-- Why a reader takes no value. -/
inductive Stop where
  /-- Something else is ahead than the reader expects. -/
  | mismatch
  /-- A number is ahead that cannot be read. -/
  | number (error : NumberError)
  /-- A value is ahead that is nested too deep. -/
  | tooDeep
deriving Repr, DecidableEq

/-- A reader of values. -/
abbrev Reader (α : Type) := StateT (List Char) (Except Stop) α

namespace Reader

/-- The reader that finds something else ahead. -/
def fail {α : Type} : Reader α := throw .mismatch

/-- The characters ahead. -/
def ahead : Reader (List Char) := get

/-- The next character, which is not taken. -/
def peek? : Reader (Option Char) := do
  return (← ahead).head?

/-- Skip the characters with a property. -/
def skipWhile (p : Char → Bool) : Reader Unit :=
  modify (List.dropWhile p)

/-- Take the characters with a property. -/
def takeWhile (p : Char → Bool) : Reader (List Char) := do
  let chars ← ahead
  set (chars.dropWhile p)
  return chars.takeWhile p

/-- Take a text if it is ahead, and tell whether it was. -/
def accept (text : String) : Reader Bool := do
  let chars ← ahead
  if text.toList.isPrefixOf chars then
    set (chars.drop text.length)
    return true
  else return false

/-- Take a text. -/
def expect (text : String) : Reader Unit := do
  unless ← accept text do fail

/-- Fail unless a condition holds. -/
def ensure (condition : Bool) : Reader Unit :=
  if condition then return () else fail

/-- The result of a reader together with the characters that it takes. -/
def withText {α : Type} (reader : Reader α) : Reader (α × List Char) := do
  let before ← ahead
  let value ← reader
  let after ← ahead
  return (value, before.take (before.length - after.length))

/-- The result of a reader, or nothing where it finds something else ahead, in which case nothing is
taken. -/
def optional {α : Type} (reader : Reader α) : Reader (Option α) := fun chars =>
  match reader.run chars with
  | .ok (value, rest) => .ok (some value, rest)
  | .error .mismatch => .ok (none, chars)
  | .error stop => .error stop

/-- The value of a whole text. -/
def readAll {α : Type} (reader : Reader α) (chars : List Char) : Except Stop α :=
  match reader.run chars with
  | .ok (value, []) => .ok value
  | .ok (_, _ :: _) => .error .mismatch
  | .error stop => .error stop

end Reader

end ReadmeAudit.Text
