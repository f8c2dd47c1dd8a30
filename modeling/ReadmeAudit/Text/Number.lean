/-!
# Numbers in digits

Whole numbers are read from the decimal digits of any script, and written in those of one. A number
of more digits than `digitLimit` is neither read nor written.
-/

namespace ReadmeAudit.Text

/-- The greatest number of digits of a number that is read or written. -/
def digitLimit : Nat := 4300

/-- The code points of the zeros. Each is followed by the other nine digits of its script. -/
def zeros : List Nat :=
  [0x30, 0x660, 0x6F0, 0x7C0, 0x966, 0x9E6, 0xA66, 0xAE6, 0xB66, 0xBE6, 0xC66, 0xCE6, 0xD66, 0xDE6,
    0xE50, 0xED0, 0xF20, 0x1040, 0x1090, 0x17E0, 0x1810, 0x1946, 0x19D0, 0x1A80, 0x1A90, 0x1B50,
    0x1BB0, 0x1C40, 0x1C50, 0xA620, 0xA8D0, 0xA900, 0xA9D0, 0xA9F0, 0xAA50, 0xABF0, 0xFF10,
    0x104A0, 0x10D30, 0x11066, 0x110F0, 0x11136, 0x111D0, 0x112F0, 0x11450, 0x114D0, 0x11650,
    0x116C0, 0x11730, 0x118E0, 0x11950, 0x11C50, 0x11D50, 0x11DA0, 0x16A60, 0x16AC0, 0x16B50,
    0x1D7CE, 0x1D7D8, 0x1D7E2, 0x1D7EC, 0x1D7F6, 0x1E140, 0x1E2F0, 0x1E950, 0x1FBF0]

/-- The value of a decimal digit. -/
def decimal? (c : Char) : Option Nat :=
  (zeros.find? fun start => start ≤ c.toNat && c.toNat < start + 10).map (c.toNat - ·)

/-- The intervals of code points of the digits that are not decimal, such as those above a line. -/
def otherDigits : List (Nat × Nat) :=
  [(0xB2, 0xB3), (0xB9, 0xB9), (0x1369, 0x1371), (0x19DA, 0x19DA), (0x2070, 0x2070),
    (0x2074, 0x2079), (0x2080, 0x2089), (0x2460, 0x2468), (0x2474, 0x247C), (0x2488, 0x2490),
    (0x24EA, 0x24EA), (0x24F5, 0x24FD), (0x24FF, 0x24FF), (0x2776, 0x277E), (0x2780, 0x2788),
    (0x278A, 0x2792), (0x10A40, 0x10A43), (0x10E60, 0x10E68), (0x11052, 0x1105A),
    (0x1F100, 0x1F10A)]

/-- Whether a character is a digit, decimal or not. -/
def isNumeral (c : Char) : Bool :=
  (decimal? c).isSome
    || otherDigits.any fun (first, last) => first ≤ c.toNat && c.toNat ≤ last

/-- Why a number is not read or written. -/
inductive NumberError where
  /-- A text is not made of decimal digits. -/
  | notDecimal (text : String)
  /-- A text has too many digits to be read. -/
  | unreadable (count : Nat)
  /-- A number has too many digits to be written. -/
  | unwritable
deriving Repr, DecidableEq

/-- The number that digits denote. Too many decimal digits are noticed before any other
character. -/
def readNumber (chars : List Char) : Except NumberError Nat :=
  let digits := (chars.takeWhile fun c => (decimal? c).isSome).filterMap decimal?
  if digitLimit < digits.length then .error (.unreadable digits.length)
  else if chars.isEmpty || digits.length < chars.length then
    .error (.notDecimal (String.ofList chars))
  else .ok (digits.foldl (fun number digit => 10 * number + digit) 0)

/-- The text of a number. The sign does not count as a digit. -/
def writeNumber (number : Int) : Except NumberError String :=
  if digitLimit < (Nat.toDigits 10 number.natAbs).length then .error .unwritable
  else .ok (toString number)

end ReadmeAudit.Text
