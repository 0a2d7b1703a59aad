import CommandTree.Console
import Std.Time.DateTime.Timestamp

namespace CommandTree.Console

def readEnvironment : IO (List (String × String)) := do
  match ← (IO.FS.readBinFile "/proc/self/environ").toBaseIO with
  | .error _ => pure []
  | .ok bytes =>
      let text := (String.fromUTF8? bytes).getD ""
      pure ((text.splitOn "\x00").filterMap fun entry =>
        (Text.cutAt? (· == '=') entry.toList).map fun (name, value) =>
          (String.ofList name, String.ofList value))

def look (path : String) : IO (Option Entry) := do
  match ← (IO.FS.readBinFile path).toBaseIO with
  | .ok bytes => pure (some (.file bytes))
  | .error _ =>
      match ← (IO.FS.realPath path).toBaseIO with
      | .error _ => pure none
      | .ok real => pure (if ← real.isDir then some .directory else none)

def survey (files : Files) (path : String) : IO Files := do
  let mut files := files
  let mut place := Path.start path
  let mut way := if Path.isAbsolute path then Path.root else "."
  for part in Path.parts path do
    place := Path.step place part
    way := Path.join way part
    match ← look way with
    | some entry => files := files.put place entry
    | none => pure ()
  return files

def surveyAll (files : Files) (paths : List String) : IO Files :=
  paths.foldlM survey files

def now : IO Logging.Stamp := do
  let t ← Std.Time.Timestamp.now
  pure ⟨(t.toNanosecondsSinceUnixEpoch.val / 1000).toNat⟩

def namesIn (directory : String) : IO (List String) := do
  match ← (IO.FS.realPath directory).toBaseIO with
  | .error _ => pure []
  | .ok real =>
      match ← real.readDir.toBaseIO with
      | .error _ => pure []
      | .ok found => pure (found.toList.map (·.fileName))

def openLog (setup : Logging.Setup) (path : String) (t : Logging.Stamp) : IO IO.FS.Handle := do
  let directory := Logging.directoryPath path
  IO.FS.createDirAll directory
  let name := setup.fileName path t
  let names ← namesIn directory
  if !names.contains name then
    for old in setup.surplus path names do
      IO.FS.removeFile (Path.join directory old)
  IO.FS.Handle.mk (Path.join directory name) .append

def writeLog (setup : Logging.Setup) (t : Logging.Stamp) (text : String) : IO Unit :=
  match setup.output, setup.filePath with
  | .stdout, _ => IO.print text
  | .file, some path => do
      match ← (openLog setup path t).toBaseIO with
      | .ok handle => handle.putStr text
      | .error _ => IO.eprint text
  | _, _ => IO.eprint text

def logEvents (setup : Logging.Setup) (filter : Logging.Filter) (events : List Event) : IO Unit := do
  let t ← now
  let entries := Logging.journalEntries setup filter events
  writeLog setup t (printedText (entries.flatMap (·.linesAt setup t.text)))

partial def talk (log : List Event → IO Unit) (input : IO.FS.Stream) (session : Session) : IO Unit := do
  IO.print session.prompt
  (← IO.getStdout).flush
  let line ← input.getLine
  if line.isEmpty then pure ()
  else
    let turn := session.take line
    log turn.events
    IO.print (printedText turn.value.printed)
    match turn.value.session with
    | some next => talk log input next
    | none => pure ()

def fail (failure : Failure) : IO UInt32 := do
  IO.eprintln failure.report
  pure 1

def start (o : Options) : IO UInt32 := do
  let environment ← readEnvironment
  let bare : Settings.Surroundings := ⟨.empty, environment, Settings.standardDirectories environment⟩
  let files ← surveyAll .empty (Settings.candidates bare (settingsRequest o))
  match settingsFor { bare with files } o with
  | .error failure => fail failure
  | .ok settings =>
      let setup := Logging.Setup.ofSettings settings.logging
      match setup.filter? (environment.lookup "RUST_LOG") with
      | none => pure (UInt32.ofNat brokenFilterCode)
      | some filter =>
          let log := logEvents setup filter
          let files ← surveyAll .empty (settings.commands.files ++ [o.commands])
          let opened := openSession files settings o
          log opened.events
          match opened.value with
          | .error failure => fail failure
          | .ok session =>
              talk log (← IO.getStdin) session
              pure 0

end CommandTree.Console

open CommandTree.Console in
def main (arguments : List String) : IO UInt32 := do
  match readOptions arguments with
  | .misuse =>
      IO.eprint misuseText
      pure 2
  | .help =>
      IO.print helpText
      pure 0
  | .run o => start o
