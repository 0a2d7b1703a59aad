import CommandTree.Settings
import CommandTree.Text.Blank
import CommandTree.Text.Quoted

namespace CommandTree.Settings

open Text

inductive Violation where
  | missingLogFile
  | noLogFileKept
  | invalidFilterTarget (target : String)
  | emptyOwner
  | invalidOwner (owner : String)
  deriving DecidableEq

def Violation.message : Violation → String
  | .missingLogFile => "logging.file_path is required when logging.output is \"file\""
  | .noLogFileKept => "logging.max_files must be greater than 0"
  | .invalidFilterTarget target => "Invalid logging filter target: " ++ quoted target
  | .emptyOwner => "commands.fallback_prefix cannot be empty"
  | .invalidOwner owner => "commands.fallback_prefix cannot contain spaces or ':': " ++ quoted owner

def isTarget (target : String) : Bool :=
  !target.isEmpty && !target.toList.any isBlank

def loggingViolation? (l : LoggingSettings) : Option Violation :=
  if l.output == .file && l.filePath.isNone then some .missingLogFile
  else if l.maxFiles = 0 then some .noLogFileKept
  else (l.filters.find? (!isTarget ·.1)).map (.invalidFilterTarget ·.1)

/-- The characters that the name of an owner may not hold: it stands before a colon in an input line. -/
def isOwnerBreak (c : Char) : Bool :=
  isBlank c || c == ':'

def commandsViolation? (c : CommandSettings) : Option Violation :=
  if c.owner.isEmpty then some .emptyOwner
  else if c.owner.toList.any isOwnerBreak then some (.invalidOwner c.owner)
  else none

def violation? (s : Settings) : Option Violation :=
  (loggingViolation? s.logging).orElse fun _ => commandsViolation? s.commands

end CommandTree.Settings
