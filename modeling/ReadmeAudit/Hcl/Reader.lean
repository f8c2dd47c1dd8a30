import ReadmeAudit.Hcl.Statement
import ReadmeAudit.Text.Reader

/-!
# The reader of module files

A module file is read statement by statement, and expressions only as far as their form goes. Spaces
and tabs may stand between any two words. Line ends and comments, which are called gaps here, may
stand between statements, inside brackets, and next to operators. No separator is needed between
two statements.

The functions that call each other take a bound on the depth of calls, which `parse?` computes from
the length of the text.
-/

namespace ReadmeAudit.Hcl

open Text Reader

/-! ### Words and gaps -/

/-- Whether a character is a space. -/
def isSpace (c : Char) : Bool :=
  c == ' ' || c == '\t' || c == '\r'

/-- Whether a character begins a name. -/
def isNameStart (c : Char) : Bool :=
  c.isAlpha || c == '_'

/-- Whether a character belongs to a name. -/
def isNameChar (c : Char) : Bool :=
  c.isAlphanum || c == '_' || c == '-'

/-- Skip spaces. -/
def spaces : Reader Unit := skipWhile isSpace

/-- Take a word after spaces if it is ahead, and tell whether it was. -/
def token (text : String) : Reader Bool := do
  let chars ← ahead
  set (chars.dropWhile isSpace)
  if ← accept text then return true
  set chars
  return false

/-- Take a word after spaces. -/
def word (text : String) : Reader Unit := do
  unless ← token text do fail

/-- Take a name after spaces if one is ahead. -/
def name? : Reader (Option String) := do
  spaces
  match ← peek? with
  | some c =>
    if isNameStart c then return some (String.ofList (← takeWhile isNameChar)) else return none
  | none => return none

/-- Take a name after spaces. -/
def name : Reader String := do
  match ← name? with
  | some found => return found
  | none => fail

/-- Take a certain name after spaces if it is ahead, and tell whether it was. -/
def keyword (text : String) : Reader Bool := do
  let chars ← ahead
  if (← name?) = some text then return true
  set chars
  return false

/-- The characters after the end of a comment that extends over lines. -/
def afterComment? : List Char → Option (List Char)
  | '*' :: '/' :: rest => some rest
  | _ :: rest => afterComment? rest
  | [] => none

/-- Take a gap after spaces if one is ahead: a run of line ends, or a comment. The result is its
text. -/
def gap? : Reader (Option (List Char)) := do
  let chars ← ahead
  let start := chars.dropWhile isSpace
  match start with
  | '\n' :: rest => taken start (rest.dropWhile fun c => c == '\n' || c == ' ' || c == '\t')
  | '#' :: rest | '/' :: '/' :: rest =>
    match rest.dropWhile (· != '\n') with
    | _ :: rest => taken start rest
    | [] => fail
  | '/' :: '*' :: rest =>
    match afterComment? rest with
    | some rest => taken start rest
    | none => fail
  | _ => return none
where
  /-- Take the characters up to others. -/
  taken (start rest : List Char) : Reader (Option (List Char)) := do
    set rest
    return some (start.take (start.length - rest.length))

/-- The text of the gaps ahead, up to a number of them. -/
def gapsUpTo : Nat → Reader (List Char)
  | 0 => return []
  | bound + 1 => do
    match ← gap? with
    | some text => return text ++ (← gapsUpTo bound)
    | none => return []

/-- The text of the gaps ahead. -/
def gapText : Reader (List Char) := do
  gapsUpTo (← ahead).length

/-- Skip gaps. -/
def gaps : Reader Unit := do
  let _ ← gapText
  return ()

/-! ### Literals -/

/-- Take an exponent if one is ahead, and tell whether it was. -/
def exponent : Reader Bool := do
  let chars ← ahead
  let marked ← if ← accept "e" then pure true else accept "E"
  if marked then
    unless ← accept "+" do
      let _ ← accept "-"
    if !(← takeWhile Char.isDigit).isEmpty then return true
  set chars
  return false

/-- Take a fraction if one is ahead, and tell whether it was. -/
def fraction : Reader Bool := do
  let chars ← ahead
  if ← accept "." then
    if !(← takeWhile Char.isDigit).isEmpty then return true
  set chars
  return false

/-- Take a number, and tell how many digits its whole part has and whether that is all of it. -/
def number : Reader (Nat × Bool) := do
  let digits ← takeWhile Char.isDigit
  ensure (!digits.isEmpty)
  let hasFraction ← fraction
  let hasExponent ← exponent
  return (digits.length, !hasFraction && !hasExponent)

/-- Take a negative number if one is ahead, and tell whether it was. A minus in front of a single
digit is an operator. -/
def negativeNumber : Reader Bool := do
  let chars ← ahead
  if ← accept "-" then
    if (← peek?).any Char.isDigit then
      let (digits, whole) ← number
      if 1 < digits || !whole then return true
  set chars
  return false

/-- Whether a character begins the marker of a quoted document. -/
def isMarkerStart (c : Char) : Bool := c.isAlpha

/-- Whether a character belongs to the marker of a quoted document. -/
def isMarkerChar (c : Char) : Bool :=
  c.isAlphanum || c == '.' || c == '_' || c == '-'

/-- The characters after a quoted document that ends with a marker on a line of its own. -/
def afterDocument? (marker : List Char) : List Char → Option (List Char)
  | [] => none
  | '\n' :: rest =>
    let line := rest.dropWhile isBlank
    if marker.isPrefixOf line && (line.drop marker.length).head? == some '\n' then
      some (line.drop (marker.length + 1))
    else afterDocument? marker rest
  | _ :: rest => afterDocument? marker rest

/-- The characters after a quoted document whose marker consists of at most a number of the
characters ahead. The longest marker counts. -/
def afterMarked? (chars : List Char) : Nat → Option (List Char)
  | 0 | 1 => none
  | length + 1 =>
    match afterDocument? (chars.take (length + 1)) (chars.drop (length + 1)) with
    | some rest => some rest
    | none => afterMarked? chars length

/-- Take a quoted document whose beginning has been taken. -/
def document : Reader Unit := do
  let _ ← accept "-"
  let chars ← ahead
  ensure ((chars.head?).any isMarkerStart)
  match afterMarked? chars (chars.takeWhile isMarkerChar).length with
  | some rest => set rest
  | none => fail

/-- Skip up to the end of an escaped template sequence. -/
def escapedTemplate : Reader Unit := do
  skipWhile (· != '\x7d')
  expect "\x7d"

/-! ### Operators -/

/-- The operators that stand between two operands. Of two that begin alike the longer comes
first. -/
def operators : List String :=
  ["==", "!=", "<=", ">=", "<", ">", "&&", "||", "+", "*", "/", "%"]

/-- Take the first of several words that is ahead, and tell whether there was one. -/
def oneOf : List String → Reader Bool
  | [] => return false
  | text :: others => do
    if ← token text then return true else oneOf others

/-- Take an operator if one is ahead, and tell whether it was. One gap may stand before it, except
before those that have to follow directly. -/
def operator (among direct : List String) : Reader Bool := do
  let chars ← ahead
  if (← gap?).isSome then
    if (← gap?).isNone then
      if ← oneOf among then return true
  else if ← oneOf (among ++ direct) then return true
  set chars
  return false

/-! ### Expressions -/

/-- A directive of a template that is open. -/
inductive Directive where
  /-- A condition. -/
  | condition
  /-- The other branch of a condition. -/
  | alternative
  /-- A repetition. -/
  | repetition
deriving DecidableEq

mutual

/-- An expression. -/
def expression : Nat → Reader Value
  | 0 => fail
  | depth + 1 => do
    let value ← operation depth
    if ← operator ["?"] [] then
      gaps
      let _ ← expression depth
      gaps
      word ":"
      gaps
      let _ ← expression depth
      return .text
    else return value

/-- Operands with operators between them. -/
def operation : Nat → Reader Value
  | 0 => fail
  | depth + 1 => do
    let value ← operand depth
    if ← operator operators ["-"] then
      gaps
      let _ ← operation depth
      return .text
    else return value

/-- An operand with the signs before it. -/
def operand : Nat → Reader Value
  | 0 => fail
  | depth + 1 => do
    spaces
    if ← negativeNumber then selected depth .scalar
    else if ← accept "-" then
      let _ ← operand depth
      return .text
    else if ← accept "!" then
      ensure ((← peek?) != some '=')
      let _ ← operand depth
      return .text
    else selected depth (← term depth)

/-- A term without what follows it. -/
def term : Nat → Reader Value
  | 0 => fail
  | depth + 1 => do
    if ← accept "(" then
      gaps
      let _ ← expression depth
      gaps
      word ")"
      return .text
    else if ← accept "[" then
      gaps
      if ← keyword "for" then
        introduction depth
        let _ ← expression depth
        gaps
        condition depth
        word "]"
        return .text
      else return .tuple (← elements depth)
    else if ← accept "\x7b" then
      gaps
      let chars ← ahead
      if ← keyword "for" then
        spaces
        if (← peek?).any (fun c => c == '=' || c == ':') then
          set chars
          return .object (← members depth [])
        else
          introduction depth
          let _ ← expression depth
          gaps
          word "=>"
          gaps
          let _ ← expression depth
          gaps
          let _ ← token "..."
          gaps
          condition depth
          word "\x7d"
          return .text
      else return .object (← members depth [])
    else if ← accept "\"" then
      template depth []
      return .text
    else if ← accept "<<" then
      document
      return .text
    else if (← peek?).any Char.isDigit then
      let _ ← number
      return .scalar
    else
      let found ← name
      if ← qualification depth then
        word "("
        gaps
        arguments depth
        return .text
      else if ← token "(" then
        gaps
        arguments depth
        return .text
      else if found = "true" || found = "false" || found = "null" then return .scalar
      else return .text

/-- The parts of a qualified name after the first, if there are any. Tells whether there are. -/
def qualification : Nat → Reader Bool
  | 0 => fail
  | depth + 1 => do
    let chars ← ahead
    if ← token "::" then
      match ← name? with
      | some _ =>
        let _ ← qualification depth
        return true
      | none =>
        set chars
        return false
    else return false

/-- A term with the selections that follow it. -/
def selected : Nat → Value → Reader Value
  | 0, _ => fail
  | depth + 1, value => do
    let chars ← ahead
    if ← token "..." then
      set chars
      return value
    else if ← token "." then
      if ← token "*" then selected depth .text
      else
        match ← name? with
        | some _ => selected depth .text
        | none =>
          ensure (!(← takeWhile Char.isDigit).isEmpty)
          selected depth .text
    else if ← token "[*]" then selected depth .text
    else if ← token "[" then
      gaps
      let _ ← expression depth
      gaps
      word "]"
      selected depth .text
    else return value

/-- The elements of a tuple, up to its end. -/
def elements : Nat → Reader (List Value)
  | 0 => fail
  | depth + 1 => do
    if ← token "]" then return []
    let value ← expression depth
    gaps
    if ← token "," then
      gaps
      return value :: (← elements depth)
    else
      word "]"
      return [value]

/-- The fields of an object after those read, up to its end. -/
def members : Nat → Fields → Reader Fields
  | 0, _ => fail
  | depth + 1, fields => do
    gaps
    if ← token "\x7d" then return fields
    let label ← key depth
    unless ← token ":" do
      word "="
      ensure ((← peek?) != some '=')
    let value ← expression depth
    gaps
    let _ ← token ","
    members depth (Pairs.put label value fields)

/-- The name of a field of an object. -/
def key : Nat → Reader String
  | 0 => fail
  | depth + 1 => do
    spaces
    if ← accept "\"" then
      let (_, text) ← withText (template depth [])
      return String.ofList ('"' :: text)
    else if ← accept "(" then
      let (_, text) ← withText (expression depth)
      word ")"
      return "$\x7b(" ++ strip (String.ofList text) ++ ")\x7d"
    else if (← peek?).any Char.isDigit then
      let (_, text) ← withText number
      return String.ofList text
    else
      let first ← name
      path depth first

/-- A name with the names that follow it after points. -/
def path : Nat → String → Reader String
  | 0, _ => fail
  | depth + 1, first => do
    if ← token "." then
      let next ← name
      path depth (first ++ "." ++ next)
    else return first

/-- The arguments of a call, up to its end. -/
def arguments : Nat → Reader Unit
  | 0 => fail
  | depth + 1 => do
    if ← token ")" then return ()
    let _ ← expression depth
    gaps
    if ← token "," then
      gaps
      arguments depth
    else if ← token "..." then
      gaps
      word ")"
    else word ")"

/-- What a repetition runs over, up to the colon. -/
def introduction : Nat → Reader Unit
  | 0 => fail
  | depth + 1 => do
    repetition depth
    gaps
    word ":"
    gaps

/-- The names and the collection of a repetition. -/
def repetition : Nat → Reader Unit
  | 0 => fail
  | depth + 1 => do
    gaps
    let _ ← name
    gaps
    if ← token "," then
      gaps
      let _ ← name
      gaps
    ensure (← keyword "in")
    gaps
    let _ ← expression depth
    return ()

/-- The condition at the end of a repetition, if there is one. -/
def condition : Nat → Reader Unit
  | 0 => fail
  | depth + 1 => do
    if ← keyword "if" then
      gaps
      let _ ← expression depth
      gaps

/-- A quoted text up to its end, inside directives that are open, the innermost first. -/
def template : Nat → List Directive → Reader Unit
  | 0, _ => fail
  | depth + 1, opened => do
    match ← ahead with
    | [] => fail
    | '"' :: rest =>
      set rest
      ensure opened.isEmpty
    | '\\' :: c :: rest =>
      ensure (c != '\n')
      set rest
      template depth opened
    | '$' :: '$' :: '\x7b' :: rest | '%' :: '%' :: '\x7b' :: rest =>
      set rest
      escapedTemplate
      template depth opened
    | '$' :: '\x7b' :: rest =>
      set rest
      let _ ← accept "~"
      gaps
      let _ ← expression depth
      gaps
      let _ ← token "~"
      word "\x7d"
      template depth opened
    | '%' :: '\x7b' :: rest =>
      set rest
      let _ ← accept "~"
      gaps
      let opened ← directive depth opened
      gaps
      let _ ← token "~"
      word "\x7d"
      template depth opened
    | '\\' :: [] => fail
    | _ :: rest =>
      set rest
      template depth opened

/-- A directive of a template, with the directives that are open after it. -/
def directive : Nat → List Directive → Reader (List Directive)
  | 0, _ => fail
  | depth + 1, opened => do
    match ← name, opened with
    | "if", _ =>
      gaps
      let _ ← expression depth
      return .condition :: opened
    | "for", _ =>
      repetition depth
      return .repetition :: opened
    | "else", .condition :: outer => return .alternative :: outer
    | "endif", .condition :: outer | "endif", .alternative :: outer => return outer
    | "endfor", .repetition :: outer => return outer
    | _, _ => fail

end

/-! ### Statements -/

/-- The labels of a block. -/
def labels : Nat → Reader (List String)
  | 0 => fail
  | depth + 1 => do
    match ← name? with
    | some label => return label :: (← labels depth)
    | none =>
      if ← accept "\"" then
        let (_, text) ← withText (template depth [])
        return String.ofList ('"' :: text) :: (← labels depth)
      else return []

mutual

/-- A statement. -/
def statement : Nat → Reader Statement
  | 0 => fail
  | depth + 1 => do
    let first ← name
    if ← token "=" then
      ensure ((← peek?) != some '=')
      return .attribute first (← expression depth)
    else
      let found ← labels depth
      let text ← gapText
      word "\x7b"
      let inner ← body depth
      word "\x7d"
      return .block first (found ++ if text.isEmpty then [] else [String.ofList text]) inner

/-- The statements of a body, up to its end. -/
def body : Nat → Reader (List Statement)
  | 0 => fail
  | depth + 1 => do
    gaps
    spaces
    match ← peek? with
    | none | some '\x7d' => return []
    | some _ =>
      let first ← statement depth
      return first :: (← body depth)

end

/-- A bound on the depth of calls for a text of a length. -/
def depthFor (length : Nat) : Nat := 16 * length + 64

/-- The fields of the text of a module file. -/
def parse? (text : String) : Option Fields :=
  let chars := text.toList ++ ['\n']
  (readAll (body (depthFor chars.length)) chars).toOption.bind Body.fields?

end ReadmeAudit.Hcl
