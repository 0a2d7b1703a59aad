import CommandTree.Help
import CommandTree.Matching
import CommandTree.Messages

/-!
Dispatch of a call. A run over a node may tell the actor something, run handlers and change the state, and
it may decline the call. What it did is kept beside its answer, and whoever runs next goes on in the state
it left. Each node checks, in this order, the permission, the request for help, the kind of sender, its own
handler, its subcommands; what is left is help, unless a sibling of the same name may still take the call.
-/

namespace CommandTree

open Text

variable {σ : Type}

structure Invocation (σ : Type) where
  command : Command σ
  handler : Handler σ
  slots : List (Option Value)

structure Delivery (σ : Type) where
  handled : Bool
  messages : List String
  calls : List (Invocation σ)
  state : σ

namespace Delivery

def declined (state : σ) : Delivery σ :=
  ⟨false, [], [], state⟩

def told (text : String) (state : σ) : Delivery σ :=
  ⟨true, [text], [], state⟩

def followedBy (first second : Delivery σ) : Delivery σ :=
  ⟨second.handled, first.messages ++ second.messages, first.calls ++ second.calls, second.state⟩

end Delivery

def Logged.unlessHandled (x : Logged (Delivery σ)) (next : σ → Logged (Delivery σ)) :
    Logged (Delivery σ) := do
  let first ← x
  if first.handled then pure first
  else do
    let second ← next first.state
    pure (first.followedBy second)

/-- Runs a handler. One that fails is followed by one message, whatever it sent before. -/
def Invocation.run (m : Messages) (actor : Actor) (call : Invocation σ) (state : σ) :
    Logged (Delivery σ) := do
  Logged.report (.handlerInvoked call.command.path actor.name)
  let reply := call.handler.call actor call.slots state
  let _ ← (⟨(), reply.events⟩ : Logged Unit)
  match reply.ending.error? with
  | none => pure ⟨true, reply.messages, [call], reply.state⟩
  | some error =>
      Logged.report (.handlerFailed call.command.path actor.name error.message)
      pure ⟨true, reply.messages ++ [m.handlerFailure], [call], reply.state⟩

def asksForHelp (tokens : List String) : Bool :=
  match tokens with
  | [] => false
  | first :: _ => sameIgnoringCase first "help"

namespace Node

def helpText (m : Messages) (actor : Actor) (node : Node σ) : String :=
  let listed := node.helpLines actor m.hiddenSubcommands
  let listed := if listed.isEmpty then [node.command.usage] else listed
  "\n".intercalate (m.helpHeader.toList ++ listed)

def runOwn (m : Messages) (actor : Actor) (node : Node σ) (tokens : List String) (state : σ) :
    Logged (Delivery σ) :=
  match node.command.handler with
  | none => pure (.declined state)
  | some handler => do
      match ← node.command.matchTokens actor tokens with
      | .matched slots => Invocation.run m actor ⟨node.command, handler, slots⟩ state
      | .contextFailure (some text) => pure (.told text state)
      | .contextFailure none => pure (.told (node.helpText m actor) state)
      | .noMatch => pure (.declined state)

def fallback (m : Messages) (actor : Actor) (node : Node σ) (hasTwin : Bool) (state : σ) :
    Logged (Delivery σ) :=
  if hasTwin then do
    Logged.report (.siblingDeferred node.command.path)
    pure (.declined state)
  else pure (.told (node.helpText m actor) state)

mutual

/-- Runs a node. One with a twin may decline. -/
def run (m : Messages) (actor : Actor) : Node σ → List String → Bool → σ → Logged (Delivery σ)
  | mk c children, tokens, hasTwin, state =>
      if !c.isPermitted actor then do
        Logged.report (.permissionDenied c.path)
        pure (.told m.noPermission state)
      else if asksForHelp tokens then
        pure (.told ((mk c children).helpText m actor) state)
      else if !c.senderKind.accepts actor.kind then do
        Logged.report (.senderRejected c.path c.senderKind)
        pure (.told (m.wrongSenderFor c.senderKind) state)
      else
        (((mk c children).runOwn m actor tokens state).unlessHandled fun state =>
          match tokens with
          | [] => pure (.declined state)
          | first :: rest => runAmong m actor children first rest children state).unlessHandled
            ((mk c children).fallback m actor hasTwin)

def runAmong (m : Messages) (actor : Actor) (siblings : List (Node σ)) (first : String)
    (rest : List String) : List (Node σ) → σ → Logged (Delivery σ)
  | [], state => pure (.declined state)
  | node :: nodes, state =>
      if node.command.hasAlias first then
        (node.run m actor rest (hasTwin siblings node) state).unlessHandled
          (runAmong m actor siblings first rest nodes)
      else runAmong m actor siblings first rest nodes state

end

def runEach (m : Messages) (actor : Actor) (siblings : List (Node σ)) (tokens : List String) :
    List (Node σ) → σ → Logged (Delivery σ)
  | [], state => pure (.declined state)
  | node :: nodes, state =>
      (node.run m actor tokens (hasTwin siblings node) state).unlessHandled
        (runEach m actor siblings tokens nodes)

end Node

def dispatch (m : Messages) (candidates : List (Node σ)) (actor : Actor) (tokens : List String)
    (state : σ) : Logged (Delivery σ) :=
  match candidates with
  | [] => pure (.declined state)
  | first :: others => do
      Logged.report (.dispatchEntered first.command.name actor.name)
      let delivery ←
        (Node.runEach m actor (first :: others) tokens (first :: others) state).unlessHandled
          fun state => do
            Logged.report .nothingHandled
            pure (.told (first.helpText m actor) state)
      Logged.report (.dispatchLeft first.command.name actor.name)
      pure delivery

end CommandTree
