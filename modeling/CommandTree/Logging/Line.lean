import CommandTree.Event.Record
import CommandTree.Logging.Setup

namespace CommandTree.Logging

open Text

structure LogEntry where
  level : Level
  head : String
  more : List String

namespace LogEntry

def levelText (e : LogEntry) : String :=
  e.level.word.toUpper

def lines (e : LogEntry) : List String :=
  (e.levelText ++ " " ++ e.head) :: e.more

def linesAt (s : Setup) (time : String) (e : LogEntry) : List String :=
  let margin := if s.format == .pretty then "  " else ""
  let blanks := String.ofList (List.replicate (5 - e.levelText.length) ' ')
  (margin ++ time ++ " " ++ blanks ++ e.levelText ++ " " ++ e.head) :: e.more

end LogEntry

def fieldContent (f : Field) : String :=
  if f.isText then quoted f.text else f.text

def fieldTexts (link : String) (fields : List Field) : List String :=
  fields.map fun f => f.name ++ link ++ fieldContent f

def threadText (s : Setup) : String :=
  if s.showsThread then "ThreadId(01) " else ""

def targetText (s : Setup) (r : Record) : String :=
  if s.showsTarget then r.target ++ ": " else ""

def contentText (r : Record) : String :=
  " ".intercalate (r.message :: fieldTexts "=" r.fields)

def compactHead (s : Setup) (spans : List Record) (r : Record) : String :=
  let names := if spans.isEmpty then "" else String.join (spans.map (·.message ++ ":")) ++ " "
  threadText s ++ names ++ targetText s r
    ++ " ".intercalate (contentText r :: spans.flatMap fun span => fieldTexts "=" span.fields)

def fullSpan (span : Record) : String :=
  span.message ++ "\x7b" ++ " ".intercalate (fieldTexts "=" span.fields) ++ "\x7d:"

def fullHead (s : Setup) (spans : List Record) (r : Record) : String :=
  let context := if spans.isEmpty then "" else String.join (spans.map fullSpan) ++ " "
  threadText s ++ context ++ targetText s r ++ contentText r

def prettyHead (s : Setup) (r : Record) : String :=
  let target := if s.showsTarget then r.target ++ ":" else ""
  target ++ " " ++ ", ".intercalate (r.message :: fieldTexts ": " r.fields)

def prettySpan (s : Setup) (span : Record) : String :=
  let name := if s.showsTarget then span.target ++ "::" ++ span.message else span.message
  "    in " ++ name ++ " with " ++ ", ".intercalate (fieldTexts ": " span.fields)

def prettyMore (s : Setup) (spans : List Record) : List String :=
  (if s.showsThread then ["    on ThreadId(1)"] else []) ++ spans.reverse.map (prettySpan s) ++ [""]

def entryOf (s : Setup) (spans : List Record) (r : Record) : LogEntry :=
  match s.format with
  | .compact => ⟨r.level, compactHead s spans r, []⟩
  | .full => ⟨r.level, fullHead s spans r, []⟩
  | .json => ⟨r.level, fullHead s spans r, []⟩
  | .pretty => ⟨r.level, prettyHead s r, prettyMore s spans⟩

end CommandTree.Logging
