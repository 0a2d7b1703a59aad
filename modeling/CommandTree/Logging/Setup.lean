import CommandTree.Inspection.Shape
import CommandTree.Settings
import CommandTree.Text.Quoted

namespace CommandTree.Logging

open Inspection Text

structure Setup where
  directives : List String
  level : Level
  spanEvents : SpanEvents
  format : LogFormat
  output : LogOutput
  showsTarget : Bool
  showsThread : Bool
  showsFile : Bool
  showsLine : Bool
  filePath : Option String
  rotation : LogRotation
  maxFiles : Nat

namespace Setup

def standard : Setup where
  directives := []
  level := .info
  spanEvents := .none
  format := .compact
  output := .stderr
  showsTarget := true
  showsThread := false
  showsFile := false
  showsLine := false
  filePath := none
  rotation := .never
  maxFiles := 5

def ofSettings (l : LoggingSettings) : Setup where
  directives := l.filters.map fun (target, level) => target ++ "=" ++ level.word
  level := l.level
  spanEvents := l.spanEvents
  format := l.format
  output := l.output
  showsTarget := true
  showsThread := l.threadIds
  showsFile := l.fileLocation
  showsLine := l.fileLocation
  filePath := l.filePath
  rotation := l.rotation
  maxFiles := l.maxFiles

def withDirective (s : Setup) (directive : String) : Setup :=
  { s with directives := s.directives ++ [directive] }

def withFile (s : Setup) (path : String) : Setup :=
  { s with filePath := some path, output := .file }

end Setup

def capitalized (word : String) : String :=
  match word.toList with
  | [] => ""
  | c :: rest => String.ofList (c.toUpper :: rest)

def inspectSpanEvents (e : SpanEvents) : String :=
  structureText "SpanEvents" false
    [("new", toString e.created), ("enter", toString e.entered), ("exit", toString e.exited),
      ("close", toString e.closed)]

def Setup.inspect (s : Setup) : String :=
  structureText "LoggingBuilder" false
    [("directives", listText (s.directives.map quoted)),
      ("level", "Level(" ++ capitalized s.level.word ++ ")"),
      ("span_events", inspectSpanEvents s.spanEvents), ("format", capitalized s.format.word),
      ("output", capitalized s.output.word), ("with_target", toString s.showsTarget),
      ("with_thread_ids", toString s.showsThread), ("with_file", toString s.showsFile),
      ("with_line_number", toString s.showsLine),
      ("file_path", optionText (s.filePath.map quotedPath)), ("rotation", capitalized s.rotation.word),
      ("max_files", toString s.maxFiles)]

end CommandTree.Logging
