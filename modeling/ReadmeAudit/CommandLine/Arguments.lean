import ReadmeAudit.CommandLine.Option
import ReadmeAudit.Text.Case
import ReadmeAudit.Text.Quoted
import ReadmeAudit.Text.Similarity

/-!
# Arguments of the command line

The arguments are read from left to right into the options that they give. An argument that begins
with two hyphens is an option with its long name, and one with a single hyphen a row of short names.
A value follows its option after an equals sign or as the next argument. What is no option is left
over, and so is everything after two hyphens alone.
-/

namespace ReadmeAudit.CommandLine

open Text

/-- What is wrong with the arguments. -/
inductive UsageError where
  /-- There is no option of a name. Others may be meant. -/
  | unknownOption (name : String) (meant : List String)
  /-- An option lacks its value. -/
  | missingValue (name : String)
  /-- An option has a value and takes none. -/
  | unwantedValue (name : String)
  /-- The value of an option is not among its choices. -/
  | badChoice (name value : String) (choices : List String)
  /-- Arguments are left over. -/
  | leftOver (arguments : List String)
deriving Repr, DecidableEq

namespace UsageError

/-- The wording of an error in the arguments. -/
def message : UsageError → String
  | unknownOption name meant =>
    "No such option " ++ quoted name ++ "." ++ match meant with
      | [] => ""
      | [other] => " Did you mean " ++ quoted other ++ "?"
      | others => " (Possible options: " ++ ", ".intercalate (others.map quoted) ++ ")"
  | missingValue name => "Option " ++ quoted name ++ " requires an argument."
  | unwantedValue name => "Option " ++ quoted name ++ " does not take a value."
  | badChoice name value choices =>
    "Invalid value for " ++ quoted name ++ ": " ++ quoted value ++ " is not one of "
      ++ ", ".intercalate (choices.map quoted) ++ "."
  | leftOver arguments =>
    "Got unexpected extra argument" ++ (if arguments.length = 1 then "" else "s") ++ " ("
      ++ " ".intercalate arguments ++ ")"

/-- Whether a hint at the usage goes before an error. -/
def hasHint : UsageError → Bool
  | missingValue _ | unwantedValue _ => false
  | _ => true

end UsageError

/-- The arguments that have been read. -/
structure Arguments where
  /-- The options in order, each with its value if it takes one. -/
  given : List (Switch × String)
  /-- The arguments that are left over. -/
  others : List String

namespace Arguments

/-- The arguments with an option added at the beginning. -/
def withOption (option : Switch) (value : String) (arguments : Arguments) : Arguments :=
  { arguments with given := (option, value) :: arguments.given }

/-- The options that a row of short names gives. -/
def letters : List Char → Except UsageError (List (Switch × String))
  | [] => .ok []
  | letter :: rest =>
    match Switch.ofLetter? letter with
    | some option => (letters rest).map ((option, "") :: ·)
    | none => .error (.unknownOption (String.ofList ['-', letter]) [])

/-- The name of an option and its value after an equals sign, if there is one. -/
def splitValue (argument : String) : String × Option String :=
  let chars := argument.toList
  match chars.dropWhile (· != '=') with
  | _ :: value => (String.ofList (chars.takeWhile (· != '=')), some (String.ofList value))
  | [] => (argument, none)

/-- The meaning of a single argument. -/
inductive Meaning where
  /-- An option that is complete. -/
  | complete (option : Switch) (value : String)
  /-- An option whose value is the next argument. -/
  | open (option : Switch)
  /-- A row of short names. -/
  | row (letters : List Char)
  /-- No option. -/
  | other
  /-- The end of the options. -/
  | ending

/-- The error for an option that does not exist. -/
def unknown (name : String) : UsageError :=
  .unknownOption name (closeMatches name (Switch.all.map (·.name)))

/-- The meaning of an argument. -/
def meaning (argument : String) : Except UsageError Meaning :=
  match argument.toList with
  | ['-', '-'] => .ok .ending
  | '-' :: c :: rest =>
    let (name, value) := splitValue argument
    match Switch.ofName? name with
    | some option =>
      match option.takesValue, value with
      | true, some value => .ok (.complete option value)
      | true, none => .ok (.open option)
      | false, some _ => .error (.unwantedValue name)
      | false, none => .ok (.complete option "")
    | none => if c = '-' then .error (unknown name) else .ok (.row (c :: rest))
  | _ => .ok .other

/-- The arguments of a command line. -/
def read : List String → Except UsageError Arguments
  | [] => .ok ⟨[], []⟩
  | argument :: rest =>
    match meaning argument with
    | .error error => .error error
    | .ok .ending => .ok ⟨[], rest⟩
    | .ok .other => (read rest).map fun found => { found with others := argument :: found.others }
    | .ok (.complete option value) => (read rest).map (withOption option value)
    | .ok (.row chars) =>
      match letters chars with
      | .error error => .error error
      | .ok given => (read rest).map fun found => { found with given := given ++ found.given }
    | .ok (.open option) =>
      match rest with
      | [] => .error (.missingValue option.name)
      | value :: rest => (read rest).map (withOption option value)

/-! ### Values -/

/-- Whether an option is given. -/
def has (arguments : Arguments) (option : Switch) : Bool :=
  arguments.given.any (·.1 = option)

/-- The values of an option in order. -/
def values (arguments : Arguments) (option : Switch) : List String :=
  (arguments.given.filter (·.1 = option)).map (·.2)

/-- The last value of an option. -/
def value? (arguments : Arguments) (option : Switch) : Option String :=
  (arguments.values option).getLast?

/-- The choice that a value means, in any case. -/
def choice? (choices : List String) (value : String) : Option String :=
  choices.find? (· == lower value)

/-- The error of an option whose value is not among its choices. -/
def badChoice? (arguments : Arguments) (option : Switch) : Option UsageError :=
  match option.choices?, arguments.value? option with
  | some choices, some value =>
    if (choice? choices value).isSome then none
    else some (.badChoice option.name value choices)
  | _, _ => none

/-- The first error in the values of the options, in the order in which they are first given. -/
def valueError? (arguments : Arguments) : Option UsageError :=
  (arguments.given.map (·.1)).findSome? arguments.badChoice?

end Arguments

end ReadmeAudit.CommandLine
