import CommandTree.Files
import CommandTree.Inspection.Shape
import CommandTree.Settings.Decoding
import CommandTree.Settings.Profile
import CommandTree.Settings.Validation
import CommandTree.Settings.Variable
import CommandTree.Toml

namespace CommandTree.Settings

open Inspection Text

structure Surroundings where
  files : Files
  environment : List (String × String)
  directories : List String

def standardDirectories (environment : List (String × String)) : List String :=
  let named := (environment.lookup "XDG_CONFIG_HOME").filter Path.isAbsolute
  let atHome := ((environment.lookup "HOME").filter (!·.isEmpty)).map (Path.join · ".config")
  "." :: ((named <|> atHome).map (Path.join · "quill")).toList

/-- What a program asks for. A file that it names takes the place of the search. -/
structure Request where
  given : List Settings
  profile : Option Profile
  directories : List String
  file : Option String
  usesVariables : Bool

def Request.standard : Request :=
  ⟨[], none, [], none, true⟩

inductive LoadError where
  | fileNotFound (path : String)
  | unsupportedFormat (extension : String)
  | malformed (fault : Fault)
  | invalid (violation : Violation)

def LoadError.message : LoadError → String
  | .fileNotFound path => "Configuration file not found: " ++ path
  | .unsupportedFormat extension =>
      "Unsupported or disabled configuration file format: ." ++ extension
  | .malformed [] => "Failed to extract configuration: not a configuration document"
  | .malformed fault =>
      "Failed to extract configuration: invalid value for key " ++ quoted (".".intercalate fault)
  | .invalid violation => "Invalid configuration: " ++ violation.message

def Request.profileIn (r : Request) (s : Surroundings) : Profile :=
  match r.profile with
  | some profile => profile
  | none =>
      match s.environment.lookup "QUILL_PROFILE" with
      | some name => .ofName name
      | none => .development

def fileNames (profile : Profile) : List String :=
  ["quill.toml", "quill." ++ profile.name ++ ".toml"]

def searched (s : Surroundings) (r : Request) : List String :=
  if r.directories.isEmpty then s.directories else r.directories

def candidates (s : Surroundings) (r : Request) : List String :=
  match r.file with
  | some path => [path]
  | none => (searched s r).flatMap fun directory => (fileNames (r.profileIn s)).map (Path.join directory)

def foundFiles (files : Files) (names : List String) : List String → List String
  | [] => []
  | directory :: others =>
      match (names.map (Path.join directory)).filter files.isFile with
      | [] => foundFiles files names others
      | found => found

def readFile (files : Files) (path : String) : Except Fault Document :=
  if files.isFile path then
    match files.read path with
    | .ok text =>
        match Toml.document? text with
        | some d => .ok d
        | none => .error []
    | .error _ => .error []
  else .ok (.table [])

def layFile (files : Files) (lower : Except Fault Document) (path : String) :
    Except LoadError (Except Fault Document) :=
  if Path.extension path == "toml" then
    .ok (do
      let below ← lower
      let d ← readFile files path
      .ok (below.merge d))
  else .error (.unsupportedFormat (Path.extension path))

def laySearched (files : Files) :
    Except Fault Document → List String → Logged (Except LoadError (Except Fault Document))
  | d, [] => pure (.ok d)
  | d, path :: paths => do
      Logged.report (.settingsMerging path)
      match layFile files d path with
      | .error e => pure (.error e)
      | .ok d => laySearched files d paths

def layFiles (s : Surroundings) (r : Request) (d : Except Fault Document) :
    Logged (Except LoadError (Except Fault Document)) :=
  match r.file with
  | some path =>
      if s.files.pathExists path then do
        Logged.report (.settingsLoading path)
        pure (layFile s.files d path)
      else pure (.error (.fileNotFound path))
  | none => do
      let directories := searched s r
      let found := foundFiles s.files (fileNames (r.profileIn s)) directories
      if found.isEmpty then
        Logged.report (.settingsAbsent (listText (directories.map quotedPath)))
      laySearched s.files d found

def layers (s : Surroundings) (r : Request) : Logged (Except LoadError (Except Fault Document)) := do
  let given := r.given.foldl (fun d settings => d.merge settings.toDocument) Settings.standard.toDocument
  match ← layFiles s r (.ok given) with
  | .error e => pure (.error e)
  | .ok d =>
      if r.usesVariables then
        Logged.report .environmentRead
        pure (.ok (d.map (·.merge (Variable.document s.environment))))
      else pure (.ok d)

def settled (d : Except Fault Document) : Except LoadError Settings :=
  match d with
  | .error fault => .error (.malformed fault)
  | .ok d =>
      match settingsFrom false d with
      | .error fault => .error (.malformed fault)
      | .ok settings =>
          match violation? settings with
          | some violation => .error (.invalid violation)
          | none => .ok settings

def load (s : Surroundings) (r : Request) : Logged (Except LoadError Settings) := do
  match ← layers s r with
  | .error e => pure (.error e)
  | .ok d =>
      match settled d with
      | .error e => pure (.error e)
      | .ok settings =>
          Logged.report
            (.settingsLoaded (r.profileIn s).name settings.logging.level settings.commands.files.length)
          pure (.ok settings)

end CommandTree.Settings
