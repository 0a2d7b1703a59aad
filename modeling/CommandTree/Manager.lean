import CommandTree.Binding
import CommandTree.Completion
import CommandTree.Definition.Block
import CommandTree.Dispatch
import CommandTree.Files
import CommandTree.Settings

/-!
The manager: the registered roots, and what it takes to read, dispatch and complete against them. A root
answers to each of its names, and to each behind the name of its owner and a colon. Several roots may
answer to one label; they are tried in the order of their registration. A failed registration leaves the
roots as they were.
-/

namespace CommandTree

open Text

structure Root (σ : Type) where
  owner : String
  node : Node σ

def Root.answersTo {σ : Type} (r : Root σ) (label : String) : Bool :=
  match cutAt? (· == ':') label.toList with
  | some (owner, name) =>
      sameIgnoringCase (String.ofList owner) r.owner && r.node.command.hasAlias (String.ofList name)
  | none => r.node.command.hasAlias label

structure Manager (σ : Type) where
  registries : Registries
  messages : Messages
  owner : String
  roots : List (Root σ)

inductive ManagerError where
  | unreadable (path : String) (source : ReadError)
  | invalidDefinition (origin : String) (source : DefinitionError)
  | unregistered (source : BindingError)
  | registry (source : RegistryError)

def ManagerError.message : ManagerError → String
  | .unreadable path source => "Failed to read command definitions from " ++ path ++ ": " ++ source.message
  | .invalidDefinition origin source => "Invalid command definition in " ++ origin ++ ", " ++ source.message
  | .unregistered source => "Failed to register commands: " ++ source.message
  | .registry source => "Registry error: " ++ source.message

def ManagerError.source : ManagerError → String
  | .unreadable _ source => source.message
  | .invalidDefinition _ source => source.message
  | .unregistered source => source.message
  | .registry source => source.message

namespace Manager

variable {σ : Type}

def new (owner : String) : Manager σ :=
  ⟨⟨.standard, .empty⟩, .standard, owner, []⟩

def configured (s : Settings) : Manager σ :=
  { new s.commands.owner with messages := s.messages }

def registerType (m : Manager σ) (type : ArgumentType) : Logged (Except RegistryError (Manager σ)) := do
  let types ← m.registries.types.register type
  pure (types.map fun types => { m with registries := { m.registries with types } })

def registerProvider (m : Manager σ) (provider : Provider) :
    Logged (Except RegistryError (Manager σ)) := do
  let providers ← m.registries.providers.register provider
  pure (providers.map fun providers => { m with registries := { m.registries with providers } })

def inlineOrigin : String := "<inline>"

def readFrom (m : Manager σ) (origin source : String) :
    Logged (Except ManagerError (List (Node σ))) := do
  let nodes ← Definition.readText m.registries source
  pure (nodes.mapError (.invalidDefinition origin))

def parse (m : Manager σ) (source : String) : Logged (Except ManagerError (List (Node σ))) :=
  m.readFrom inlineOrigin source

def addRoots (owner : String) : List (Root σ) → List (Node σ) → Logged (List (Root σ))
  | roots, [] => pure roots
  | roots, node :: nodes => do
      if roots.any (·.node.command.hasAlias node.command.name) then
        Logged.report (.labelShared node.command.name)
      Logged.report (.commandRegistered node.command.name owner)
      addRoots owner (roots ++ [⟨owner, node⟩]) nodes

def register (m : Manager σ) (owner : String) (nodes : List (Node σ)) (tables : List (HookTable σ)) :
    Logged (Manager σ × Except ManagerError (List String)) := do
  let bound ← Node.bindAll tables nodes
  match bound.error with
  | some error => pure (m, .error (.unregistered error))
  | none =>
      let roots ← addRoots owner m.roots bound.result
      pure ({ m with roots }, .ok (bound.result.map (·.command.name)))

def load (m : Manager σ) (source : String) (tables : List (HookTable σ)) :
    Logged (Manager σ × Except ManagerError (List String)) := do
  match ← m.parse source with
  | .error error => pure (m, .error error)
  | .ok nodes => m.register m.owner nodes tables

def loadFile (m : Manager σ) (files : Files) (path : String) (tables : List (HookTable σ)) :
    Logged (Manager σ × Except ManagerError (List String)) := do
  match files.read path with
  | .error error => pure (m, .error (.unreadable path error))
  | .ok source =>
      Logged.report (.definitionsLoading path)
      match ← m.readFrom path source with
      | .error error => pure (m, .error error)
      | .ok nodes => m.register m.owner nodes tables

structure Loaded (σ : Type) where
  manager : Manager σ
  names : List String
  error : Option ManagerError

def loadFiles (files : Files) (tables : List (HookTable σ)) :
    Manager σ → List String → Logged (Loaded σ)
  | m, [] => pure ⟨m, [], none⟩
  | m, path :: paths => do
      match ← m.loadFile files path tables with
      | (m, .error error) => pure ⟨m, [], some error⟩
      | (m, .ok names) =>
          let rest ← loadFiles files tables m paths
          pure ⟨rest.manager, names ++ rest.names, rest.error⟩

def unregister (m : Manager σ) (label : String) : Logged (Manager σ × Nat) := do
  let kept := m.roots.filter fun root => !root.answersTo label
  let removed := m.roots.length - kept.length
  if 0 < removed then
    Logged.report (.commandUnregistered label removed)
  pure ({ m with roots := kept }, removed)

def rootNames (m : Manager σ) : List String :=
  m.roots.map (·.node.command.name)

def lookup (m : Manager σ) (label : String) : List (Node σ) :=
  (m.roots.filter (·.answersTo label)).map (·.node)

def execute (m : Manager σ) (actor : Actor) (label : String) (tokens : List String) (state : σ) :
    Logged (Delivery σ) :=
  match m.lookup label with
  | [] => do
      Logged.report (.commandUnknown label actor.name)
      pure (.declined state)
  | candidates => dispatch m.messages candidates actor tokens state

def executeLine (m : Manager σ) (actor : Actor) (line : String) (state : σ) : Logged (Delivery σ) :=
  match tokenize (dropSlash line) with
  | [] => pure (.declined state)
  | label :: tokens => m.execute actor label tokens state

def completeLabel (m : Manager σ) (actor : Actor) (typed : String) : List String :=
  firstSeen
    (((m.roots.map (·.node.command)).filter fun c =>
        !c.hidesFromCompletion && c.isPermitted actor && startsIgnoringCase c.name typed).map
      fun c => quoteIfNeeded c.name)

def completeRoots (actor : Actor) (tokens : List String) : List (Node σ) → Logged (List String)
  | [] => pure []
  | node :: nodes => do
      let here ← node.complete actor tokens
      let others ← completeRoots actor tokens nodes
      pure (here ++ others)

def completeLine (m : Manager σ) (actor : Actor) (line : String) : Logged (List String) :=
  match tokenizeTyped (dropSlash line) with
  | [] => pure []
  | [label] => pure (m.completeLabel actor label)
  | label :: tokens => do
      let found ← completeRoots actor tokens (m.lookup label)
      pure (firstSeen found)

end Manager

end CommandTree
