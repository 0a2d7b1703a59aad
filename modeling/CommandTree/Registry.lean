import CommandTree.Event
import CommandTree.Text.Blank
import CommandTree.Value

namespace CommandTree

open Number

inductive Attempt (α : Type) where
  | returned (a : α)
  | panicked

/-- A named type of argument: how a token becomes a value, and which tokens to suggest. A literal default
is converted without an actor. -/
structure ArgumentType where
  name : String
  converter : Option Actor → String → Attempt (Option Value)
  supplier : Option (Actor → Attempt (List String))

namespace ArgumentType

def convert (t : ArgumentType) (actor : Option Actor) (token : String) : Logged (Option Value) :=
  match t.converter actor token with
  | .returned value => pure value
  | .panicked => do
      Logged.report (.converterPanicked t.name token)
      pure none

def complete (t : ArgumentType) (actor : Actor) : Logged (List String) :=
  match t.supplier with
  | none => pure []
  | some supplier =>
      match supplier actor with
      | .returned candidates => pure candidates
      | .panicked => do
          Logged.report (.supplierPanicked t.name)
          pure []

def isString (t : ArgumentType) : Bool :=
  t.name == "string"

def isBoolean (t : ArgumentType) : Bool :=
  t.name == "boolean"

def plain (name : String) (convert : String → Option Value) : ArgumentType :=
  ⟨name, fun _ token => .returned (convert token), none⟩

def int : ArgumentType :=
  plain "int" fun token => (readInt32 token).map .int

def long : ArgumentType :=
  plain "long" fun token => (readInt64 token).map .long

def double : ArgumentType :=
  plain "double" fun token => ((Double.read token).filter Double.isFinite).map .double

def string : ArgumentType :=
  plain "string" fun token => some (.string token)

def readBoolean (token : String) : Option Bool :=
  if Text.sameIgnoringCase token "true" then some true
  else if Text.sameIgnoringCase token "false" then some false
  else none

def boolean : ArgumentType :=
  { plain "boolean" fun token => (readBoolean token).map .boolean with
    supplier := some fun _ => .returned ["true", "false"] }

def builtins : List ArgumentType :=
  [int, long, double, string, boolean]

end ArgumentType

structure Provider where
  name : String
  supplier : Actor → Attempt (Option Value)
  message : Option String

def Provider.supply (p : Provider) (actor : Actor) : Logged (Option Value) :=
  match p.supplier actor with
  | .returned value => pure value
  | .panicked => do
      Logged.report (.providerPanicked p.name actor.name)
      pure none

inductive RegistryError where
  | duplicateType (name : String)
  | duplicateProvider (name : String)
  | invalidType (name : String)
  | invalidProvider (name : String)
  deriving DecidableEq

def RegistryError.message : RegistryError → String
  | .duplicateType name => "argument type '" ++ name ++ "' is already registered"
  | .duplicateProvider name => "context provider '" ++ name ++ "' is already registered"
  | .invalidType name => "invalid type name '" ++ name ++ "'"
  | .invalidProvider name => "invalid context provider name '" ++ name ++ "'"

structure TypeTable where
  entries : List ArgumentType

namespace TypeTable

def empty : TypeTable := ⟨[]⟩

def standard : TypeTable := ⟨ArgumentType.builtins⟩

def get? (t : TypeTable) (name : String) : Option ArgumentType :=
  t.entries.find? (·.name == name)

def contains (t : TypeTable) (name : String) : Bool :=
  (t.get? name).isSome

def isReserved (c : Char) : Bool :=
  Text.isBlank c || c == ':' || c == ',' || c == '(' || c == ')' || c == '\x7b' || c == '\x7d'

def isValidName (name : String) : Bool :=
  !name.isEmpty && !name.toList.any isReserved

def register (t : TypeTable) (type : ArgumentType) : Logged (Except RegistryError TypeTable) :=
  if !isValidName type.name then pure (.error (.invalidType type.name))
  else if t.contains type.name then pure (.error (.duplicateType type.name))
  else do
    Logged.report (.typeRegistered type.name)
    pure (.ok ⟨t.entries ++ [type]⟩)

def names (t : TypeTable) : List String :=
  (t.entries.map (·.name)).mergeSort fun a b => !decide (b < a)

end TypeTable

structure ProviderTable where
  entries : List Provider

namespace ProviderTable

def empty : ProviderTable := ⟨[]⟩

def get? (t : ProviderTable) (name : String) : Option Provider :=
  t.entries.find? (·.name == name)

def contains (t : ProviderTable) (name : String) : Bool :=
  (t.get? name).isSome

def isValidName (name : String) : Bool :=
  !name.isEmpty && !name.toList.any Text.isBlank

def register (t : ProviderTable) (provider : Provider) :
    Logged (Except RegistryError ProviderTable) :=
  if !isValidName provider.name then pure (.error (.invalidProvider provider.name))
  else if t.contains provider.name then pure (.error (.duplicateProvider provider.name))
  else do
    Logged.report (.providerRegistered provider.name)
    pure (.ok ⟨t.entries ++ [provider]⟩)

end ProviderTable

structure Registries where
  types : TypeTable
  providers : ProviderTable

end CommandTree
