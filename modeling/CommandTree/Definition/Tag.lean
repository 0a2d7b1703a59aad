import CommandTree.Definition.Header

/-!
The tag lines of a block: a word and, behind the first blank, its value. Help lines and provider names
accumulate; of every other tag the last one counts.
-/

namespace CommandTree.Definition

open Text

def readTag (line : List Char) : List Char × List Char :=
  match cutAt? isBlank line with
  | some (tag, value) => (tag, trim value)
  | none => (line, [])

def findProviders (r : Registries) : List (List Char) → Except DefinitionCause (List Provider)
  | [] => .ok []
  | name :: names =>
      match findProvider r name with
      | .error cause => .error cause
      | .ok provider =>
          match findProviders r names with
          | .error cause => .error cause
          | .ok providers => .ok (provider :: providers)

def addHelp (help : Option String) (line : String) : String :=
  match help with
  | some text => text ++ "\n" ++ line
  | none => line

def required (tag : String) (value : List Char) : Except DefinitionCause (List Char) :=
  if value.isEmpty then .error (.missingValue tag) else .ok value

def applyTag {σ : Type} (r : Registries) (c : Command σ) (tag : String) (value : List Char) :
    Except DefinitionCause (Command σ) :=
  match tag with
  | "help" => .ok { c with help := some (addHelp c.help (String.ofList value)) }
  | "permission" => do
      let value ← required tag value
      .ok { c with permission := some (String.ofList value) }
  | "user" => setSender
  | "users" => setSender
  | "context" => do
      let value ← required tag value
      let providers ← findProviders r (words value)
      .ok { c with context := c.context ++ providers }
  | "assert" => do
      let value ← required tag value
      let providers ← findProviders r (words value)
      .ok { c with asserters := c.asserters ++ providers }
  | "hidesub" => .ok { c with hidesChildren := true }
  | "notab" => .ok { c with hidesFromCompletion := true }
  | "hook" => do
      let value ← required tag value
      .ok { c with hook := some (String.ofList value) }
  | _ => .error (.unknownTag tag)
where
  setSender : Except DefinitionCause (Command σ) := do
    let value ← required tag value
    match SenderKind.ofWord? (String.ofList value) with
    | some kind => .ok { c with senderKind := kind }
    | none => .error (.unknownSenderKind (String.ofList value))

def applyLine {σ : Type} (r : Registries) (c : Command σ) (line : List Char) :
    Except DefinitionCause (Command σ) :=
  applyTag r c (String.ofList (readTag line).1) (readTag line).2

end CommandTree.Definition
