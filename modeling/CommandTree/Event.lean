import CommandTree.Actor

namespace CommandTree

inductive Level where
  | trace
  | debug
  | info
  | warn
  | error
  deriving DecidableEq

namespace Level

def rank : Level → Nat
  | .trace => 0
  | .debug => 1
  | .info => 2
  | .warn => 3
  | .error => 4

def word : Level → String
  | .trace => "trace"
  | .debug => "debug"
  | .info => "info"
  | .warn => "warn"
  | .error => "error"

def ofWord? : String → Option Level
  | "trace" => some .trace
  | "debug" => some .debug
  | "info" => some .info
  | "warn" => some .warn
  | "error" => some .error
  | _ => none

end Level

structure Field where
  name : String
  text : String
  isText : Bool

structure Record where
  level : Level
  target : String
  message : String
  fields : List Field

inductive Event where
  | typeRegistered (name : String)
  | providerRegistered (name : String)
  | converterPanicked (type token : String)
  | supplierPanicked (type : String)
  | providerPanicked (provider actor : String)
  | hookAdded (hook : String) (arity : Nat)
  | blockClosed (path : String)
  | commandParsed (name : String) (children : Nat)
  | hookBound (path hook : String)
  | hookAbsent (path : String)
  | flagRejected (path : String)
  | positionalRejected (path : String) (tokens : Nat)
  | candidateChosen (argument : String) (skipped : Nat)
  | asserterAbsent (provider : String)
  | contextAbsent (provider : String)
  | dispatchEntered (command actor : String)
  | dispatchLeft (command actor : String)
  | permissionDenied (path : String)
  | senderRejected (path : String) (required : SenderKind)
  | siblingDeferred (path : String)
  | nothingHandled
  | handlerInvoked (path actor : String)
  | handlerFailed (path actor error : String)
  | definitionsLoading (path : String)
  | labelShared (command : String)
  | commandRegistered (command owner : String)
  | commandUnregistered (label : String) (removed : Nat)
  | commandUnknown (label actor : String)
  | settingsLoading (path : String)
  | settingsMerging (path : String)
  | settingsAbsent (paths : String)
  | environmentRead
  | settingsLoaded (profile : String) (level : Level) (files : Nat)
  | noted (record : Record)

structure Logged (α : Type) where
  value : α
  events : List Event

namespace Logged

variable {α β : Type}

def quiet (a : α) : Logged α :=
  ⟨a, []⟩

def andThen (x : Logged α) (f : α → Logged β) : Logged β :=
  let y := f x.value
  ⟨y.value, x.events ++ y.events⟩

instance : Monad Logged where
  pure := quiet
  bind := andThen

def report (e : Event) : Logged Unit :=
  ⟨(), [e]⟩

@[simp] theorem value_pure (a : α) : (pure a : Logged α).value = a := rfl

@[simp] theorem events_pure (a : α) : (pure a : Logged α).events = [] := rfl

@[simp] theorem value_bind (x : Logged α) (f : α → Logged β) :
    (x >>= f).value = (f x.value).value := rfl

@[simp] theorem events_bind (x : Logged α) (f : α → Logged β) :
    (x >>= f).events = x.events ++ (f x.value).events := rfl

@[simp] theorem value_report (e : Event) : (report e).value = () := rfl

@[simp] theorem events_report (e : Event) : (report e).events = [e] := rfl

end Logged

end CommandTree
