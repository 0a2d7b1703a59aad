import CommandTree.Argument
import CommandTree.Handler

namespace CommandTree

structure Command (σ : Type) where
  name : String
  alternatives : List String
  path : String
  arguments : List Argument
  flags : List Flag
  context : List Provider
  asserters : List Provider
  permission : Option String
  senderKind : SenderKind
  help : Option String
  hook : Option String
  hidesChildren : Bool
  hidesFromCompletion : Bool
  isRoot : Bool
  line : Nat
  handler : Option (Handler σ)

namespace Command

variable {σ : Type}

def aliases (c : Command σ) : List String :=
  c.name :: c.alternatives

def hasAlias (c : Command σ) (token : String) : Bool :=
  c.aliases.any (Text.sameIgnoringCase · token)

def sharesName (c d : Command σ) : Bool :=
  Text.sameIgnoringCase c.name d.name

def isPermitted (c : Command σ) (actor : Actor) : Bool :=
  match c.permission with
  | some permission => actor.holds permission
  | none => true

def expectedArity (c : Command σ) : Nat :=
  1 + c.arguments.length + c.flags.length + c.context.length

def signature (c : Command σ) : List String :=
  c.arguments.map Argument.display ++ c.flags.map Flag.display

def usage (c : Command σ) : String :=
  " ".intercalate (("/" ++ c.path) :: c.signature)

end Command

inductive Node (σ : Type) where
  | mk (command : Command σ) (children : List (Node σ))

namespace Node

variable {σ : Type}

def command : Node σ → Command σ
  | mk command _ => command

def children : Node σ → List (Node σ)
  | mk _ children => children

def hasTwin (siblings : List (Node σ)) (node : Node σ) : Bool :=
  1 < siblings.countP fun other => other.command.sharesName node.command

mutual

def preorder : Node σ → List (Node σ)
  | mk command children => mk command children :: preorderAll children

def preorderAll : List (Node σ) → List (Node σ)
  | [] => []
  | node :: nodes => node.preorder ++ preorderAll nodes

end

end Node

end CommandTree
