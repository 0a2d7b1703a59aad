import CommandTree.Definition.Tag

namespace CommandTree.Definition

open Text

inductive Line where
  | ignored
  | close
  | opening (header : List Char)
  | other (text : List Char)
  deriving DecidableEq

def headerText (text : List Char) : List Char :=
  match dropEnd? ['\x7b'] text with
  | some header => trim header
  | none => trim text

def Line.ofTrimmed (text : List Char) : Line :=
  match text with
  | [] => .ignored
  | '#' :: _ => .ignored
  | ['\x7d'] => .close
  | _ => if text.getLast? == some '\x7b' then .opening (headerText text) else .other text

def Line.read (raw : String) : Line :=
  .ofTrimmed (trim raw.toList)

structure OpenBlock (σ : Type) where
  command : Command σ
  children : List (Node σ)

variable {σ : Type}

def OpenBlock.finish (b : OpenBlock σ) : Node σ :=
  .mk b.command b.children

def OpenBlock.addChild (b : OpenBlock σ) (child : Node σ) : OpenBlock σ :=
  ⟨b.command, b.children ++ [child]⟩

structure Nesting (σ : Type) where
  innermost : OpenBlock σ
  outer : List (OpenBlock σ)

inductive Progress (σ : Type) where
  | inside (nesting : Nesting σ)
  | closed (node : Node σ)

def Nesting.close (n : Nesting σ) : Progress σ :=
  match n.outer with
  | [] => .closed n.innermost.finish
  | parent :: outer => .inside ⟨parent.addChild n.innermost.finish, outer⟩

def Nesting.read (r : Registries) (n : Nesting σ) (number : Nat) (raw : String) :
    Logged (Except DefinitionCause (Progress σ)) :=
  match Line.read raw with
  | .ignored => pure (.ok (.inside n))
  | .close => do
      Logged.report (.blockClosed n.innermost.command.path)
      pure (.ok n.close)
  | .opening header => do
      match ← readHeader r header number (some n.innermost.command.path) with
      | .error cause => pure (.error cause)
      | .ok command => pure (.ok (.inside ⟨⟨command, []⟩, n.innermost :: n.outer⟩))
  | .other text =>
      match applyLine r n.innermost.command text with
      | .error cause => pure (.error cause)
      | .ok command => pure (.ok (.inside ⟨⟨command, n.innermost.children⟩, n.outer⟩))

def Nesting.unclosed (n : Nesting σ) : DefinitionError :=
  ⟨n.innermost.command.line, .unclosedBlock⟩

/-- Reads the lines from line `number` on until the outermost of the open blocks closes. The result is
the block, and the number of the line behind it. -/
def readNesting (r : Registries) :
    Nesting σ → Nat → List String → Logged (Except DefinitionError (Node σ × Nat))
  | n, _, [] => pure (.error n.unclosed)
  | n, number, raw :: lines => do
      match ← n.read r number raw with
      | .error cause => pure (.error ⟨number, cause⟩)
      | .ok (.closed node) => pure (.ok (node, number + 1))
      | .ok (.inside n) => readNesting r n (number + 1) lines

/-- Reads the block whose header is the line at index `start`, below the command with the path `parent`.
The result is the block, and the index of the line behind it. -/
def readBlock (r : Registries) (lines : List String) (start : Nat) (parent : Option String) :
    Logged (Except DefinitionError (Node σ × Nat)) :=
  match lines.drop start with
  | [] => pure (.error ⟨start + 1, .missingBlock⟩)
  | raw :: rest => do
      match ← readHeader r (headerText (trim raw.toList)) (start + 1) parent with
      | .error cause => pure (.error ⟨start + 1, cause⟩)
      | .ok command =>
          let block ← readNesting r ⟨⟨command, []⟩, []⟩ (start + 2) rest
          pure (block.map fun (node, next) => (node, next - 1))

def asRoot : Node σ → Node σ
  | .mk command children => .mk { command with isRoot := true } children

structure Reading (σ : Type) where
  roots : List (Node σ)
  nesting : Option (Nesting σ)

def Reading.read (r : Registries) (s : Reading σ) (number : Nat) (raw : String) :
    Logged (Except DefinitionCause (Reading σ)) :=
  match s.nesting with
  | some n => do
      match ← n.read r number raw with
      | .error cause => pure (.error cause)
      | .ok (.inside n) => pure (.ok ⟨s.roots, some n⟩)
      | .ok (.closed node) =>
          let root := asRoot node
          Logged.report (.commandParsed root.command.name root.children.length)
          pure (.ok ⟨s.roots ++ [root], none⟩)
  | none =>
      match Line.read raw with
      | .ignored => pure (.ok s)
      | .close => pure (.error .unexpectedClose)
      | .other text => pure (.error (.outsideBlock (String.ofList text)))
      | .opening header => do
          match ← readHeader r header number none with
          | .error cause => pure (.error cause)
          | .ok command => pure (.ok ⟨s.roots, some ⟨⟨command, []⟩, []⟩⟩)

def Reading.finish (s : Reading σ) : Except DefinitionError (List (Node σ)) :=
  match s.nesting with
  | some n => .error n.unclosed
  | none => .ok s.roots

def Reading.run (r : Registries) :
    Reading σ → Nat → List String → Logged (Except DefinitionError (List (Node σ)))
  | s, _, [] => pure s.finish
  | s, number, raw :: lines => do
      match ← s.read r number raw with
      | .error cause => pure (.error ⟨number, cause⟩)
      | .ok s => Reading.run r s (number + 1) lines

def readLines (r : Registries) (lines : List String) :
    Logged (Except DefinitionError (List (Node σ))) :=
  Reading.run r ⟨[], none⟩ 1 lines

def readText (r : Registries) (source : String) : Logged (Except DefinitionError (List (Node σ))) :=
  readLines r ((Text.lines source.toList).map String.ofList)

end CommandTree.Definition
