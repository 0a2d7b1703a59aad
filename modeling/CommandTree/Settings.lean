import CommandTree.Document
import CommandTree.Event
import CommandTree.Messages

namespace CommandTree

inductive LogFormat where
  | compact
  | full
  | pretty
  | json
  deriving DecidableEq

namespace LogFormat

def word : LogFormat → String
  | .compact => "compact"
  | .full => "full"
  | .pretty => "pretty"
  | .json => "json"

def ofWord? : String → Option LogFormat
  | "compact" => some .compact
  | "full" => some .full
  | "pretty" => some .pretty
  | "json" => some .json
  | _ => none

end LogFormat

inductive LogOutput where
  | stderr
  | stdout
  | file
  deriving DecidableEq

namespace LogOutput

def word : LogOutput → String
  | .stderr => "stderr"
  | .stdout => "stdout"
  | .file => "file"

def ofWord? : String → Option LogOutput
  | "stderr" => some .stderr
  | "stdout" => some .stdout
  | "file" => some .file
  | _ => none

end LogOutput

inductive LogRotation where
  | never
  | hourly
  | daily
  deriving DecidableEq

namespace LogRotation

def word : LogRotation → String
  | .never => "never"
  | .hourly => "hourly"
  | .daily => "daily"

def ofWord? : String → Option LogRotation
  | "never" => some .never
  | "hourly" => some .hourly
  | "daily" => some .daily
  | _ => none

end LogRotation

structure SpanEvents where
  created : Bool
  entered : Bool
  exited : Bool
  closed : Bool
  deriving DecidableEq

namespace SpanEvents

def none : SpanEvents := ⟨false, false, false, false⟩

def lifecycle : SpanEvents := ⟨true, false, false, true⟩

def full : SpanEvents := ⟨true, true, true, true⟩

end SpanEvents

/-- What is logged, how and where. The filters give some sources a level of their own; they stand in the
order of the names. -/
structure LoggingSettings where
  level : Level
  format : LogFormat
  output : LogOutput
  filePath : Option String
  rotation : LogRotation
  maxFiles : Nat
  threadIds : Bool
  fileLocation : Bool
  spanEvents : SpanEvents
  filters : List (String × Level)

structure CommandSettings where
  owner : String
  files : List String

structure Settings where
  logging : LoggingSettings
  messages : Messages
  commands : CommandSettings

def LoggingSettings.standard : LoggingSettings where
  level := .info
  format := .compact
  output := .stderr
  filePath := none
  rotation := .never
  maxFiles := 5
  threadIds := false
  fileLocation := false
  spanEvents := .none
  filters := []

def CommandSettings.standard : CommandSettings :=
  ⟨"quill", []⟩

def Settings.standard : Settings :=
  ⟨.standard, .standard, .standard⟩

def Document.ofText? : Option String → Document
  | some s => .text s
  | none => .nothing

def Messages.toDocument (m : Messages) : Document :=
  .ofEntries
    [("no_permission", .text m.noPermission), ("wrong_sender", .text m.wrongSender),
      ("handler_failure", .text m.handlerFailure), ("hidden_subcommands", .text m.hiddenSubcommands),
      ("help_header", .ofText? m.helpHeader)]

def SpanEvents.toDocument (e : SpanEvents) : Document :=
  .ofEntries
    [("new", .boolean e.created), ("enter", .boolean e.entered), ("exit", .boolean e.exited),
      ("close", .boolean e.closed)]

def LoggingSettings.toDocument (l : LoggingSettings) : Document :=
  .ofEntries
    [("level", .text l.level.word), ("format", .text l.format.word), ("output", .text l.output.word),
      ("file_path", .ofText? l.filePath), ("rotation", .text l.rotation.word),
      ("max_files", .integer l.maxFiles), ("thread_ids", .boolean l.threadIds),
      ("file_location", .boolean l.fileLocation), ("span_events", l.spanEvents.toDocument),
      ("filters", .ofEntries (l.filters.map fun (target, level) => (target, .text level.word)))]

def CommandSettings.toDocument (c : CommandSettings) : Document :=
  .ofEntries [("fallback_prefix", .text c.owner), ("files", .list (c.files.map .text))]

def Settings.toDocument (s : Settings) : Document :=
  .ofEntries
    [("logging", s.logging.toDocument), ("messages", s.messages.toDocument),
      ("commands", s.commands.toDocument)]

end CommandTree
