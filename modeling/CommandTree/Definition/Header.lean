import CommandTree.Definition.Parameter
import CommandTree.Node

namespace CommandTree.Definition

open Text

structure Signature where
  arguments : List Argument
  flags : List Flag

def Signature.add (s : Signature) : Declaration → Except DefinitionCause Signature
  | .flag f => .ok ⟨s.arguments, s.flags ++ [{ f with position := s.flags.length }]⟩
  | .argument a =>
      match s.arguments.getLast? with
      | some previous =>
          if previous.isVariadic then .error (.variadicNotLast previous.name)
          else .ok ⟨s.arguments ++ [{ a with position := s.arguments.length }], s.flags⟩
      | none => .ok ⟨[{ a with position := 0 }], s.flags⟩

def Signature.read (r : Registries) (s : Signature) :
    List (List Char) → Logged (Except DefinitionCause Signature)
  | [] => pure (.ok s)
  | token :: tokens => do
      match ← readParameter r token with
      | .error cause => pure (.error cause)
      | .ok declaration =>
          match s.add declaration with
          | .error cause => pure (.error cause)
          | .ok extended => Signature.read r extended tokens

def pathBelow (parent : Option String) (name : String) : String :=
  match parent with
  | some path => path ++ " " ++ name
  | none => name

def declareCommand {σ : Type} (name : String) (alternatives : List String) (s : Signature)
    (parent : Option String) (line : Nat) : Command σ where
  name := name
  alternatives := alternatives
  path := pathBelow parent name
  arguments := s.arguments
  flags := s.flags
  context := []
  asserters := []
  permission := none
  senderKind := .everyone
  help := none
  hook := none
  hidesChildren := false
  hidesFromCompletion := false
  isRoot := false
  line := line
  handler := none

def readNames (token : List Char) : Option (String × List String) :=
  match (pieces (· == ',') token).map trim with
  | [] => none
  | first :: others =>
      if (first :: others).any List.isEmpty then none
      else some (String.ofList first, others.map String.ofList)

def readHeader {σ : Type} (r : Registries) (header : List Char) (line : Nat) (parent : Option String) :
    Logged (Except DefinitionCause (Command σ)) :=
  match splitHeader header with
  | none => pure (.error (.unbalancedParenthesis (String.ofList header)))
  | some [] => pure (.error .missingName)
  | some (names :: parameters) =>
      match readNames names with
      | none => pure (.error (.malformedArgument (String.ofList names)))
      | some (name, alternatives) => do
          match ← Signature.read r ⟨[], []⟩ parameters with
          | .error cause => pure (.error cause)
          | .ok signature => pure (.ok (declareCommand name alternatives signature parent line))

end CommandTree.Definition
