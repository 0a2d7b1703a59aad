import CommandTree.Registry

namespace CommandTree

inductive Default where
  | literal (value : Value)
  | context (provider : Provider)

def Default.resolve (actor : Actor) : Default → Logged (Option Value)
  | .literal value => pure (some value)
  | .context provider => provider.supply actor

structure Argument where
  type : ArgumentType
  name : String
  position : Nat
  isOptional : Bool
  isVariadic : Bool
  hidesType : Bool
  default : Option Default

namespace Argument

def defaultFor (a : Argument) (actor : Actor) : Logged (Option Value) :=
  match a.default with
  | some d => d.resolve actor
  | none => pure none

def display (a : Argument) : String :=
  let label := if a.hidesType then a.name else a.name ++ ":" ++ a.type.name
  let label := if a.isVariadic then label ++ "..." else label
  if a.isOptional then "[" ++ label ++ "]" else "<" ++ label ++ ">"

end Argument

/-- A flag, found anywhere among the tokens. Its names include the dash they begin with. -/
structure Flag where
  type : ArgumentType
  name : String
  alternatives : List String
  position : Nat
  hidesType : Bool
  default : Option Default

namespace Flag

def names (f : Flag) : List String :=
  f.name :: f.alternatives

def isSwitch (f : Flag) : Bool :=
  f.type.isBoolean

def answersTo (f : Flag) (token : String) : Bool :=
  f.names.contains token

def defaultFor (f : Flag) (actor : Actor) : Logged (Option Value) :=
  match f.default with
  | some d => d.resolve actor
  | none => pure (if f.isSwitch then some (.boolean false) else none)

def display (f : Flag) : String :=
  if f.isSwitch || f.hidesType then "[" ++ f.name ++ "]"
  else "[" ++ f.name ++ ":" ++ f.type.name ++ "]"

end Flag

end CommandTree
