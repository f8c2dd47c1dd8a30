import ReadmeAudit.Text.Ranges
import ReadmeAudit.Text.Reader
import ReadmeAudit.Toml.Document

/-!
# The reader of files of options

A file of options is read line by line into a `Document`. `parse` gives its table, or what is wrong
at the first place where the text cannot be read on: something is not well formed, a whole number in
base ten has too many digits, or a value is nested too deep. The memory that a text takes is not
limited, and the depth only by the number of lists and tables around a value, not by the size of a
stack.
-/

namespace ReadmeAudit.Toml

open Text Reader

/-! ### Characters -/

/-- Whether a character is a blank inside a line. -/
def isSpace (c : Char) : Bool :=
  c == ' ' || c == '\t'

/-- Whether a character is a blank or a line end. -/
def isSpaceOrEnd (c : Char) : Bool :=
  isSpace c || c == '\n'

/-- Whether a character belongs to a bare name. -/
def isBare (c : Char) : Bool :=
  c.isAlphanum || c == '-' || c == '_'

/-- Whether a character controls a device rather than being written. -/
def isControl (c : Char) : Bool :=
  c.toNat < 32 || c.toNat = 127

/-- Whether a character must not stand in a comment or in a text of one line. -/
def isForbidden (c : Char) : Bool :=
  isControl c && c != '\t'

/-- Whether a character must not stand in a text of several lines. -/
def isForbiddenInLines (c : Char) : Bool :=
  isForbidden c && c != '\n'

/-- Skip blanks inside a line. -/
def spaces : Reader Unit := skipWhile isSpace

/-- Skip a comment if one is ahead, and tell whether it was. -/
def comment : Reader Bool := do
  if ← accept "#" then
    ensure (!(← takeWhile (· != '\n')).any isForbidden)
    return true
  else return false

/-- Skip blanks, line ends and comments, up to a number of comments. -/
def gapsUpTo : Nat → Reader Unit
  | 0 => return ()
  | bound + 1 => do
    skipWhile isSpaceOrEnd
    if ← comment then gapsUpTo bound

/-- Skip blanks, line ends and comments. -/
def gaps : Reader Unit := do
  gapsUpTo ((← ahead).length + 1)

/-! ### Texts -/

/-- The character of a code given by hexadecimal digits, if it exists. -/
def charOfHex? (digits : List Char) (count : Nat) : Option Char :=
  let isHex (c : Char) : Bool := c.isDigit || ('a' ≤ c.toLower && c.toLower ≤ 'f')
  if digits.length = count && digits.all isHex then
    let code := hexValue digits
    if code.isValidChar then some (Char.ofNat code) else none
  else none

/-- Take the character of a code with a number of hexadecimal digits. -/
def charOfCode (count : Nat) : Reader (List Char) := do
  let chars ← ahead
  match charOfHex? (chars.take count) count with
  | some c =>
    set (chars.drop count)
    return [c]
  | none => fail

/-- Take what follows a backslash. In a text of several lines a backslash at the end of a line
leaves out the blanks and line ends after it. -/
def escape (lines : Bool) : Reader (List Char) := do
  match ← ahead with
  | 'b' :: rest => taken (Char.ofNat 8) rest
  | 't' :: rest => taken '\t' rest
  | 'n' :: rest => taken '\n' rest
  | 'f' :: rest => taken (Char.ofNat 12) rest
  | 'r' :: rest => taken '\r' rest
  | '"' :: rest => taken '"' rest
  | '\\' :: rest => taken '\\' rest
  | 'u' :: rest =>
    set rest
    charOfCode 4
  | 'U' :: rest =>
    set rest
    charOfCode 8
  | c :: _ =>
    ensure (lines && isSpaceOrEnd c)
    spaces
    expect "\n"
    skipWhile isSpaceOrEnd
    return []
  | [] => fail
where
  /-- Take one character that stands for another. -/
  taken (c : Char) (rest : List Char) : Reader (List Char) := do
    set rest
    return [c]

/-- Take a text of one line up to its quotation mark, of at most a number of characters. -/
def basicLine : Nat → Reader (List Char)
  | 0 => fail
  | bound + 1 => do
    match ← ahead with
    | '"' :: rest =>
      set rest
      return []
    | '\\' :: rest =>
      set rest
      let first ← escape false
      return first ++ (← basicLine bound)
    | c :: rest =>
      ensure (!isForbidden c)
      set rest
      return c :: (← basicLine bound)
    | [] => fail

/-- Take a text of several lines up to its quotation marks, of at most a number of characters. -/
def basicLines : Nat → Reader (List Char)
  | 0 => fail
  | bound + 1 => do
    match ← ahead with
    | '"' :: '"' :: '"' :: rest =>
      set rest
      return []
    | '\\' :: rest =>
      set rest
      let first ← escape true
      return first ++ (← basicLines bound)
    | c :: rest =>
      ensure (!isForbiddenInLines c)
      set rest
      return c :: (← basicLines bound)
    | [] => fail

/-- Take a literal text of one line up to its quotation mark. -/
def literalLine : Reader (List Char) := do
  let text ← takeWhile (· != '\'')
  ensure (!text.any isForbidden)
  expect "'"
  return text

/-- Take a literal text of several lines up to its quotation marks. -/
def literalLines : Nat → Reader (List Char)
  | 0 => fail
  | bound + 1 => do
    match ← ahead with
    | '\'' :: '\'' :: '\'' :: rest =>
      set rest
      return []
    | c :: rest =>
      ensure (!isForbiddenInLines c)
      set rest
      return c :: (← literalLines bound)
    | [] => fail

/-- Take up to two quotation marks that belong to the text before the closing ones. -/
def extraMarks (mark : String) : Reader (List Char) := do
  if ← accept mark then
    if ← accept mark then return mark.toList ++ mark.toList
    return mark.toList
  return []

/-- Take a text in quotation marks. -/
def quotedText : Reader String := do
  let bound := (← ahead).length + 1
  if ← accept "\"\"\"" then
    let _ ← accept "\n"
    let text ← basicLines bound
    return String.ofList (text ++ (← extraMarks "\""))
  else if ← accept "\"" then return String.ofList (← basicLine bound)
  else if ← accept "'''" then
    let _ ← accept "\n"
    let text ← literalLines bound
    return String.ofList (text ++ (← extraMarks "'"))
  else
    expect "'"
    return String.ofList (← literalLine)

/-! ### Names -/

/-- Take one name of a path. -/
def name : Reader String := do
  match ← peek? with
  | some '"' =>
    expect "\""
    return String.ofList (← basicLine ((← ahead).length + 1))
  | some '\'' =>
    expect "'"
    return String.ofList (← literalLine)
  | _ =>
    let chars ← takeWhile isBare
    ensure (!chars.isEmpty)
    return String.ofList chars

/-- Take the names of a path after the first, at most a number of them. -/
def moreNames : Nat → Reader Key
  | 0 => return []
  | bound + 1 => do
    if ← accept "." then
      spaces
      let next ← name
      spaces
      return next :: (← moreNames bound)
    else return []

/-- Take a path of names with points between them. -/
def key : Reader Key := do
  let first ← name
  spaces
  return first :: (← moreNames (← ahead).length)

/-! ### Dates and times -/

/-- The number that digits denote in a base. -/
def valueIn (base : Nat) (chars : List Char) : Nat :=
  chars.foldl (fun number c => base * number + hexDigit c) 0

/-- Take a number of a certain count of digits that lies between two bounds. -/
def digits (count low high : Nat) : Reader Nat := do
  let chars ← ahead
  let taken := chars.take count
  ensure (taken.length = count && taken.all Char.isDigit)
  let number := valueIn 10 taken
  ensure (low ≤ number && number ≤ high)
  set (chars.drop count)
  return number

/-- The millionths of a second that the digits of a fraction denote. -/
def microOf (fraction : List Char) : Nat :=
  valueIn 10 (fraction.take 6 ++ List.replicate (6 - fraction.length) '0')

/-- Take a time of day. -/
def time : Reader Time := do
  let hour ← digits 2 0 23
  expect ":"
  let minute ← digits 2 0 59
  expect ":"
  let second ← digits 2 0 59
  let fraction ← optional do
    expect "."
    let chars ← takeWhile Char.isDigit
    ensure (!chars.isEmpty)
    return chars
  return ⟨hour, minute, second, microOf (fraction.getD [])⟩

/-- Take the offset of a zone in minutes. -/
def offset : Reader Int := do
  match ← ahead with
  | 'Z' :: rest | 'z' :: rest =>
    set rest
    return 0
  | sign :: rest =>
    ensure (sign == '+' || sign == '-')
    set rest
    let hours ← digits 2 0 23
    expect ":"
    let minutes ← digits 2 0 59
    let amount : Int := hours * 60 + minutes
    return if sign == '-' then -amount else amount
  | [] => fail

/-- Take the form of a date. -/
def date : Reader Date := do
  let year ← digits 4 0 9999
  expect "-"
  let month ← digits 2 1 12
  expect "-"
  let day ← digits 2 1 31
  return ⟨year, month, day⟩

/-- Take the time after a date. -/
def dateTime : Reader (Time × Option Int) := do
  match ← ahead with
  | c :: rest =>
    ensure (c == 'T' || c == 't' || c == ' ')
    set rest
    let clock ← time
    return (clock, ← optional offset)
  | [] => fail

/-- Take a date with or without a time, or a time. A date has to exist. -/
def moment? : Reader (Option Moment) := do
  match ← optional date with
  | some day =>
    ensure day.isValid
    match ← optional dateTime with
    | some (clock, zone) => return some (.dateTime day clock zone)
    | none => return some (.date day)
  | none => return (← optional time).map .time

/-! ### Numbers -/

/-- Take digits with a property, between any two of which a line may stand. -/
def digitRun (p : Char → Bool) : Nat → Reader (List Char)
  | 0 => return []
  | bound + 1 => do
    match ← ahead with
    | '_' :: c :: rest =>
      if p c then
        set rest
        return c :: (← digitRun p bound)
      else return []
    | c :: rest =>
      if p c then
        set rest
        return c :: (← digitRun p bound)
      else return []
    | [] => return []

/-- Take at least one digit with a property. -/
def someDigits (p : Char → Bool) : Reader (List Char) := do
  match ← ahead with
  | c :: rest =>
    ensure (p c)
    set rest
    return c :: (← digitRun p rest.length)
  | [] => fail

/-- Take a number in a base that its beginning names. -/
def basedNumber (lead : String) (base : Nat) (p : Char → Bool) : Reader Setting := do
  expect lead
  return .integer (valueIn base (← someDigits p))

/-- Whether a character is a hexadecimal digit. -/
def isHex (c : Char) : Bool :=
  c.isDigit || ('a' ≤ c && c ≤ 'f') || ('A' ≤ c && c ≤ 'F')

/-- Take the sign of a number, and tell whether it is negative. -/
def sign : Reader Bool := do
  if ← accept "-" then return true
  let _ ← accept "+"
  return false

/-- Take the exponent of a number. -/
def exponent : Reader Int := do
  match ← ahead with
  | c :: rest =>
    ensure (c == 'e' || c == 'E')
    set rest
    let negative ← sign
    let amount : Int := valueIn 10 (← someDigits Char.isDigit)
    return if negative then -amount else amount
  | [] => fail

/-- The whole number of digits in base ten. -/
def wholeNumber (negative : Bool) (digits : List Char) : Reader Setting :=
  if digitLimit < digits.length then throw (.number (.unreadable digits.length))
  else
    let value : Int := valueIn 10 digits
    return .integer (if negative then -value else value)

/-- Take a number in base ten. -/
def number : Reader Setting := do
  let negative ← sign
  let whole ← if ← accept "0" then pure ['0'] else
    ensure ((← peek?).any fun c => '1' ≤ c && c ≤ '9')
    someDigits Char.isDigit
  let fraction ← optional do
    expect "."
    someDigits Char.isDigit
  let power ← optional exponent
  if fraction.isNone && power.isNone then wholeNumber negative whole
  else
    let parts := fraction.getD []
    return .decimal (.ofDecimal negative (valueIn 10 (whole ++ parts))
      (power.getD 0 - parts.length))

/-- Take a number that is written as a word. -/
def wordNumber : Reader Setting := do
  let negative ← sign
  if ← accept "inf" then return .decimal (.infinite negative)
  else
    expect "nan"
    return .decimal .nan

/-- The first of several readers that succeeds. -/
def firstOf {α : Type} : List (Reader α) → Reader α
  | [] => fail
  | reader :: readers => do
    match ← optional reader with
    | some value => return value
    | none => firstOf readers

/-- Take a date, a time or a number. -/
def scalar : Reader Setting := do
  match ← moment? with
  | some value => return .moment value
  | none => firstOf [basedNumber "0x" 16 isHex, basedNumber "0b" 2 fun c => c == '0' || c == '1',
      basedNumber "0o" 8 fun c => '0' ≤ c && c ≤ '7', number, wordNumber]

/-! ### Values -/

/-- The greatest number of lists and inline tables around a value. -/
def nestingLimit : Nat := 1000

mutual

/-- Take a value inside a number of lists and inline tables. -/
def value : (depth level : Nat) → Reader Setting
  | 0, _ => fail
  | depth + 1, level => do
    if nestingLimit < level then throw .tooDeep
    match ← peek? with
    | some '"' | some '\'' => return .text (← quotedText)
    | some 't' =>
      expect "true"
      return .truth true
    | some 'f' =>
      expect "false"
      return .truth false
    | some '[' =>
      expect "["
      gaps
      return .list (← elements depth (level + 1))
    | some '\x7b' =>
      expect "\x7b"
      spaces
      if ← accept "\x7d" then return .table [] else members depth (level + 1) ⟨[], []⟩
    | _ => scalar

/-- Take the elements of a list, up to its end. -/
def elements : (depth level : Nat) → Reader (List Setting)
  | 0, _ => fail
  | depth + 1, level => do
    if ← accept "]" then return []
    let first ← value depth level
    gaps
    if ← accept "," then
      gaps
      return first :: (← elements depth level)
    else
      expect "]"
      return [first]

/-- Take the fields of an inline table, up to its end. -/
def members : (depth level : Nat) → Inline → Reader Setting
  | 0, _, _ => fail
  | depth + 1, level, inline => do
    let path ← key
    expect "="
    spaces
    let given ← value depth level
    match inline.assign path given with
    | none => fail
    | some inline =>
      spaces
      if ← accept "," then
        spaces
        members depth level inline
      else
        expect "\x7d"
        return .table inline.fields

end

/-! ### Lines -/

/-- A bound on the depth of calls for a text of a length. -/
def depthFor (length : Nat) : Nat := 8 * length + 16

/-- Take a statement, if one is ahead, into a document. -/
def statement (document : Document) : Reader Document := do
  match ← ahead with
  | '[' :: '[' :: rest =>
    set rest
    spaces
    let path ← key
    expect "]]"
    ofOption (document.openElement path)
  | '[' :: rest =>
    set rest
    spaces
    let path ← key
    expect "]"
    ofOption (document.openTable path)
  | '#' :: _ | [] | '\n' :: _ => return document
  | chars =>
    let path ← key
    expect "="
    spaces
    let given ← value (depthFor chars.length) 0
    ofOption (document.assign path given)
where
  /-- A result that may be missing. -/
  ofOption (result : Option Document) : Reader Document :=
    match result with
    | some document => return document
    | none => fail

/-- Take the lines of a document, at most a number of them. -/
def lines : Nat → Document → Reader Document
  | 0, _ => fail
  | bound + 1, document => do
    spaces
    let document ← statement document
    spaces
    let _ ← comment
    match ← ahead with
    | [] => return document
    | c :: rest =>
      ensure (c == '\n')
      set rest
      lines bound document

/-- The characters of a text with its line ends unified. A line may end with a carriage return
before the line end. -/
def unify : List Char → List Char
  | '\r' :: '\n' :: rest => '\n' :: unify rest
  | c :: rest => c :: unify rest
  | [] => []

/-- The table of a text. -/
def parse (text : String) : Except Stop Fields :=
  let chars := unify text.toList
  (readAll (lines (chars.length + 1) .empty) chars).map (·.fields)

end ReadmeAudit.Toml
