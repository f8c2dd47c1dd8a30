import ReadmeAudit.Files.Tree
import ReadmeAudit.Problem
import ReadmeAudit.Text.Number

/-!
# Failures

A `Failure` is a reason for which an audit, or the resolution of its options, comes to no result at
all. A problem, by contrast, is a result.
-/

namespace ReadmeAudit

/-- What is wrong with the options of an audit. -/
inductive OptionError where
  /-- There is no option of a name. -/
  | unknownOption (name : String)
  /-- There is no format of a name. -/
  | unknownFormat (name : String)
  /-- A format is given by a number that cannot be written. -/
  | unwritableFormat
  /-- There is no scope of a name. -/
  | unknownScope (name : String)
  /-- An option needs a list. -/
  | listNeeded (name : String)
  /-- An option needs a truth value. -/
  | truthNeeded (name : String)
  /-- The file of options does not exist. -/
  | missingFile (path : String)
  /-- The file of options could not be read. -/
  | unreadableFile (fault : Files.Fault)
  /-- The file of options is not well formed. -/
  | malformedFile
  /-- No README is given. -/
  | noReadme
  /-- The README could not be read. -/
  | unreadableReadme (fault : Files.Fault)
deriving Repr, DecidableEq

/-- The wording for a format that does not exist. -/
def unknownFormatMessage (name : String) : String :=
  "Unknown markdown format: " ++ name

/-- The wording for a number that cannot be written. -/
def unwritableMessage : String :=
  "Exceeds the limit (" ++ toString Text.digitLimit ++ " digits) for integer string conversion; "
    ++ "use sys.set_int_max_str_digits() to increase the limit"

/-- The wording of an error in the options. -/
def OptionError.message : OptionError → String
  | unknownOption name => "Unknown configuration key: " ++ name
  | unknownFormat name => unknownFormatMessage name
  | unwritableFormat => unwritableMessage
  | unknownScope name => "Unknown scan mode: " ++ name
  | listNeeded name => name ++ " must be a list of strings"
  | truthNeeded name => name ++ " must be true or false"
  | missingFile path => "Config file not found: " ++ path
  | unreadableFile fault => "Failed to load config: " ++ fault.message
  | malformedFile => "Failed to load config"
  | noReadme => "README path not provided and README_PATH environment variable not set"
  | unreadableReadme fault => "failed to read file: " ++ fault.message

/-- Why there is no result. -/
inductive Failure where
  /-- The options are wrong. -/
  | options (error : OptionError)
  /-- Items could not be determined. -/
  | extraction (error : ExtractionError)
  /-- Something that has no elements stands where blocks are expected. -/
  | noElements
  /-- A path is given by something that is no text. -/
  | notAPath
  /-- The options are given by something that is no table. -/
  | notATable
  /-- A file is not encoded as text. -/
  | notText
  /-- A number cannot be read or written. -/
  | number (error : Text.NumberError)
  /-- A value in the file of options is nested too deep. -/
  | tooDeep
  /-- The home directory of a user is not known. -/
  | unknownHome
  /-- A path has a character of code zero. -/
  | zeroCharacter
  /-- The system refuses an access. -/
  | refused (fault : Files.Fault)
  /-- A tag in the report closes nothing. -/
  | strayTag
deriving Repr, DecidableEq

end ReadmeAudit
