import CommandTree.Console.Hooks
import CommandTree.Console.Options
import CommandTree.Console.Report
import CommandTree.Logging.Journal
import CommandTree.Logging.Place

namespace CommandTree.Console

open Inspection Text

structure Session where
  manager : Manager World
  world : World
  actor : Actor
  permissions : List String

def playerNamed (permissions : List String) (name : String) : Actor :=
  .granted name .player permissions

def startingActor (o : Options) : Actor :=
  match o.player with
  | some name => playerNamed o.permissions name
  | none => .console

def settingsRequest (o : Options) : Settings.Request :=
  { Settings.Request.standard with file := o.config }

/-- The settings. Logging is not set up yet, so what is reported here is lost. -/
def settingsFor (s : Settings.Surroundings) (o : Options) : Except Failure Settings :=
  (Settings.load s (settingsRequest o)).value.mapError .ofLoadError

def equippedManager (settings : Settings) (w : World) :
    Logged (Except Failure (Manager World)) := do
  match ← (Manager.configured settings).registerType (playerType w) with
  | .error e => pure (.error (.ofManagerError (.registry e)))
  | .ok m =>
      let m ← m.registerProvider selfProvider
      pure (m.mapError fun e => .ofManagerError (.registry e))

def loadDefinitions (files : Files) (settings : Settings) (o : Options) (table : HookTable World)
    (m : Manager World) : Logged (Except Failure (Manager World)) := do
  let loaded ← Manager.loadFiles files [table] m settings.commands.files
  match loaded.error with
  | some e => pure (.error (.ofManagerError e))
  | none =>
      match ← loaded.manager.loadFile files o.commands [table] with
      | (_, .error e) => pure (.error ((Failure.ofManagerError e).during ("loading " ++ o.commands)))
      | (m, .ok _) => pure (.ok m)

def readyRecord (m : Manager World) (actor : Actor) : Record :=
  ⟨.info, "quill_console", "Console ready",
    [.plain "commands" (listText (m.rootNames.map quoted)), .plain "actor" actor.name]⟩

def openSession (files : Files) (settings : Settings) (o : Options) :
    Logged (Except Failure Session) := do
  let world := World.ofPlayers o.players
  match ← equippedManager settings world with
  | .error f => pure (.error f)
  | .ok m =>
      let table ← HookTable.ofList hooks
      match ← loadDefinitions files settings o table m with
      | .error f => pure (.error f)
      | .ok m =>
          let actor := startingActor o
          Logged.report (.noted (readyRecord m actor))
          pure (.ok ⟨m, world, actor, o.permissions⟩)

def Session.prompt (s : Session) : String :=
  s.actor.name ++ "> "

inductive Input where
  | nothing
  | leave
  | completions (text : String)
  | call (line : String)

def dropLineEnd (line : List Char) : List Char :=
  (line.reverse.dropWhile fun c => c == '\r' || c == '\n').reverse

def Input.read (line : String) : Input :=
  let text := dropLineEnd line.toList
  match String.ofList (trim text) with
  | "" => .nothing
  | "exit" => .leave
  | "quit" => .leave
  | _ =>
      match text with
      | '?' :: typed => .completions (String.ofList (trimStart typed))
      | _ => .call (String.ofList text)

structure Turn where
  session : Option Session
  printed : List String

def Session.switched (s : Session) : Session :=
  match s.world.switchTo with
  | some name =>
      { s with world := { s.world with switchTo := none }, actor := playerNamed s.permissions name }
  | none => s

def Session.call (s : Session) (line : String) : Logged Turn := do
  let delivery ← s.manager.executeLine s.actor line s.world
  let unknown := "Unknown command. Known: " ++ ", ".intercalate s.manager.rootNames
  let printed := delivery.messages ++ (if delivery.handled then [] else [unknown])
  pure ⟨some { s with world := delivery.state }.switched, printed⟩

def Session.take (s : Session) (line : String) : Logged Turn :=
  match Input.read line with
  | .nothing => pure ⟨some s, []⟩
  | .leave => pure ⟨none, []⟩
  | .completions text => do
      let candidates ← s.manager.completeLine s.actor text
      pure ⟨some s, ["  ".intercalate candidates]⟩
  | .call line => s.call line

def printedText (lines : List String) : String :=
  String.join (lines.map (· ++ "\n"))

def Session.converse (s : Session) : List String → Logged String
  | [] => pure s.prompt
  | line :: lines => do
      let turn ← s.take line
      match turn.session with
      | none => pure (s.prompt ++ printedText turn.printed)
      | some next =>
          let rest ← next.converse lines
          pure (s.prompt ++ printedText turn.printed ++ rest)

def inputLines (input : String) : List String :=
  (lines input.toList).map String.ofList

structure Outcome where
  code : Nat
  printed : String
  failure : Option Failure
  files : Files

/-- What a run does to the log: a function of the reports that gives the files as the log leaves them. There
is none if the filter is broken. -/
def logger? (s : Settings.Surroundings) (t : Logging.Stamp) (settings : Settings) :
    Option (List Event → Files) :=
  let setup := Logging.Setup.ofSettings settings.logging
  (setup.filter? (s.environment.lookup "RUST_LOG")).map fun filter events =>
    match setup.place? s.files with
    | some place =>
        let entries := Logging.journalEntries setup filter events
        Logging.appendLines s.files place (entries.flatMap (·.linesAt setup t.text))
    | none => s.files

def brokenFilterCode : Nat := 101

def runWith (s : Settings.Surroundings) (t : Logging.Stamp) (o : Options) (input : String) : Outcome :=
  match settingsFor s o with
  | .error f => ⟨1, "", some f, s.files⟩
  | .ok settings =>
      match logger? s t settings with
      | none => ⟨brokenFilterCode, "", none, s.files⟩
      | some logged =>
          let opened := openSession s.files settings o
          match opened.value with
          | .error f => ⟨1, "", some f, logged opened.events⟩
          | .ok session =>
              let talk := session.converse (inputLines input)
              ⟨0, talk.value, none, logged (opened.events ++ talk.events)⟩

def run (arguments : List String) (s : Settings.Surroundings) (t : Logging.Stamp) (input : String) :
    Outcome :=
  match readOptions arguments with
  | .misuse => ⟨2, "", none, s.files⟩
  | .help => ⟨0, helpText, none, s.files⟩
  | .run o => runWith s t o input

end CommandTree.Console
