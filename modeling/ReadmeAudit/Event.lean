import ReadmeAudit.Decimal.Binary
import ReadmeAudit.Readme.Detection
import ReadmeAudit.Text.Quoted

/-!
# Events

An `Event` is something that an audit notes on its way. It is of use to someone who follows the
run, and has no influence on the outcome. Each event has a `level` and a wording.
-/

namespace ReadmeAudit

/-- The importance of an event. -/
inductive Level where
  /-- Only of interest when following a run closely. -/
  | debug
  /-- Of general interest. -/
  | info
  /-- A sign that something is not as intended. -/
  | warning
deriving Repr, DecidableEq

/-- Something noted during an audit. -/
inductive Event where
  /-- There is no file of options, and the defaults are used. -/
  | optionsDefaulted
  /-- Options were read from a file. -/
  | optionsRead (path : String)
  /-- The environment gives the README. -/
  | readmeGiven (path : String)
  /-- The environment gives a format that does not exist. -/
  | formatIgnored (name : String)
  /-- The options are complete. -/
  | optionsResolved (readme module : String) (format scope : String)
  /-- The layout of the README was detected. -/
  | layoutDetected (detection : Detection)
  /-- The README was read. -/
  | readmeRead (sections anchors : Nat) (layout : Layout)
  /-- No section of some names was found, and anchors were used instead. -/
  | anchorsUsed (names : List String) (count : Nat)
  /-- The links of the README were read. -/
  | linksRead (resources dataSources : Nat)
  /-- The blocks of a type in a file were read. -/
  | blocksRead (count : Nat) (blockType path : String)
  /-- The resources and data sources of a module were read. -/
  | moduleRead (resources dataSources : Nat) (path : String)
  /-- Items of a type were compared. -/
  | reconciled (itemType : String) (declared documented mismatches : Nat)
  /-- The sections were checked. -/
  | sectionsChecked (problems : Nat)
  /-- A file is there and not empty. -/
  | fileFine (path : String) (size : Nat)
  /-- Addresses are about to be checked. -/
  | addressesFound (count : Nat)
  /-- There is no resource on either side. -/
  | noResources
  /-- There is no item of a type on either side. -/
  | noItems (itemType blockType : String)
  /-- A check is left out. -/
  | checkSkipped (name : String)
  /-- The audit begins. -/
  | auditBegun (readme module : String) (layout : Layout) (checks : Nat)
  /-- A check is done. -/
  | checkDone (name : String) (problems : Nat)
deriving Repr, DecidableEq

namespace Event

/-- The importance of an event. -/
def level : Event → Level
  | readmeGiven _ => .info
  | formatIgnored _ => .warning
  | _ => .debug

/-- Texts in quotes, separated by commas and enclosed in parentheses. A single one is followed by a
comma. -/
def listing : List String → String
  | [name] => "(" ++ Text.quoted name ++ ",)"
  | names => "(" ++ ", ".intercalate (names.map Text.quoted) ++ ")"

/-- The wording of an event. -/
def message : Event → String
  | optionsDefaulted => "Config file not found, using defaults"
  | optionsRead path => "Loaded config from: " ++ path
  | readmeGiven path => "Using README_PATH from environment: " ++ path
  | formatIgnored name =>
    "Unknown format in FORMAT environment variable: " ++ name ++ ", using auto-detection"
  | optionsResolved readme module format scope =>
    "Resolved options: readme=" ++ readme ++ " module=" ++ module ++ " format=" ++ format
      ++ " scan_mode=" ++ scope
  | layoutDetected detection =>
    "Format detection: table=" ++ toString detection.scores.table
      ++ " heading=" ++ toString detection.scores.heading ++ " -> " ++ detection.layout.name
      ++ " (confidence " ++ Decimal.fixed 2 detection.confidence ++ ")"
  | readmeRead sections anchors layout =>
    "Parsed README: " ++ toString sections ++ " sections, " ++ toString anchors
      ++ " anchors, format=" ++ layout.name
  | anchorsUsed names count =>
    "No heading for " ++ listing names ++ ", anchor fallback found " ++ toString count
  | linksRead resources dataSources =>
    "Extracted " ++ toString resources ++ " resources and " ++ toString dataSources
      ++ " data sources from README"
  | blocksRead count blockType path =>
    "Found " ++ toString count ++ " " ++ blockType ++ " blocks in " ++ path
  | moduleRead resources dataSources path =>
    "Extracted " ++ toString resources ++ " resources and " ++ toString dataSources
      ++ " data sources from " ++ path
  | reconciled itemType declared documented mismatches =>
    "Reconciled " ++ itemType ++ ": " ++ toString declared ++ " terraform, "
      ++ toString documented ++ " markdown, " ++ toString mismatches ++ " mismatches"
  | sectionsChecked problems => "Section validation found " ++ toString problems ++ " problems"
  | fileFine path size => "File ok: " ++ path ++ " (" ++ toString size ++ " bytes)"
  | addressesFound count => "Checking " ++ toString count ++ " URLs"
  | noResources => "No resources declared or documented, skipping"
  | noItems itemType blockType =>
    "No " ++ itemType ++ " sections and no " ++ blockType ++ " blocks, skipping"
  | checkSkipped name => "Skipping " ++ name ++ " validator"
  | auditBegun readme module layout checks =>
    "Validating " ++ readme ++ " against " ++ module ++ " (" ++ layout.name ++ " format, "
      ++ toString checks ++ " validators)"
  | checkDone name problems => name ++ ": " ++ toString problems ++ " errors"

end Event

end ReadmeAudit
