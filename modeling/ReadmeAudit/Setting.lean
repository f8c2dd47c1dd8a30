import ReadmeAudit.Decimal.Shortest
import ReadmeAudit.Setting.Moment
import ReadmeAudit.Text.Number
import ReadmeAudit.Text.Quoted

/-!
# Settings

A `Setting` is the value of an option as it is given, before anything is known about the option.
`asText` is what stands for it where an option wants a text, and `literal` what stands for it inside
lists and tables, where texts are in quotes. There is neither for a number of too many digits, nor
for a list or a table with such a number somewhere in it. How deep lists and tables are nested makes
no difference.
-/

namespace ReadmeAudit

/-- The value of an option as given. -/
inductive Setting where
  /-- Nothing given. -/
  | null
  /-- A truth value. -/
  | truth (value : Bool)
  /-- A whole number. -/
  | integer (value : Int)
  /-- A number with a fraction or an exponent. -/
  | decimal (value : Decimal.Binary)
  /-- A text. -/
  | text (value : String)
  /-- A date or a time. -/
  | moment (value : Moment)
  /-- A list. -/
  | list (items : List Setting)
  /-- A table with its fields in order. -/
  | table (fields : List (String × Setting))

namespace Setting

/-- Whether nothing is given. -/
def isNull : Setting → Bool
  | null => true
  | _ => false

mutual

/-- The text of a value inside lists and tables. -/
def literal : Setting → Except Text.NumberError String
  | null => .ok "None"
  | truth value => .ok (if value then "True" else "False")
  | integer value => Text.writeNumber value
  | decimal value => .ok value.text
  | text value => .ok (Text.quoted value)
  | moment value => .ok value.literal
  | list items => do return "[" ++ ", ".intercalate (← literals items) ++ "]"
  | table fields => do return "\x7b" ++ ", ".intercalate (← fieldLiterals fields) ++ "\x7d"

/-- The texts of the elements of a list. -/
def literals : List Setting → Except Text.NumberError (List String)
  | [] => .ok []
  | item :: items => do return (← literal item) :: (← literals items)

/-- The texts of the fields of a table. -/
def fieldLiterals : List (String × Setting) → Except Text.NumberError (List String)
  | [] => .ok []
  | field :: fields => do return (← fieldLiteral field) :: (← fieldLiterals fields)

/-- The text of a field. -/
def fieldLiteral : String × Setting → Except Text.NumberError String
  | (name, value) => do return Text.quoted name ++ ": " ++ (← literal value)

end

/-- The text of a value. -/
def asText : Setting → Except Text.NumberError String
  | text value => .ok value
  | moment value => .ok value.text
  | value => value.literal

end Setting

end ReadmeAudit
