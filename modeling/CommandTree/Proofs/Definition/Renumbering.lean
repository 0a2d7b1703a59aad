import CommandTree.Proofs.Definition.Effect
import CommandTree.Proofs.Tree

namespace CommandTree

variable {σ : Type} {r : Registries}

def Command.renumber (f : Nat → Nat) (c : Command σ) : Command σ :=
  { c with line := f c.line }

def Node.renumber (f : Nat → Nat) (node : Node σ) : Node σ :=
  node.mapCommands (Command.renumber f)

theorem Node.renumber_mk (f : Nat → Nat) (c : Command σ) (children : List (Node σ)) :
    (Node.mk c children).renumber f = .mk (c.renumber f) (children.map (Node.renumber f)) := by
  rw [renumber, mapCommands, mapCommandsAll_eq_map]
  rfl

theorem Node.renumber_renumber (f g : Nat → Nat) (node : Node σ) :
    (node.renumber f).renumber g = node.renumber (g ∘ f) := by
  induction node with
  | mk c children ih =>
      rw [renumber_mk, renumber_mk, renumber_mk, List.map_map]
      exact congrArg (Node.mk _) (List.map_congr_left ih)

def DefinitionError.renumber (f : Nat → Nat) (e : DefinitionError) : DefinitionError :=
  ⟨f e.line, e.cause⟩

namespace Definition

def OpenBlock.renumber (f : Nat → Nat) (b : OpenBlock σ) : OpenBlock σ :=
  ⟨b.command.renumber f, b.children.map (Node.renumber f)⟩

def Nesting.renumber (f : Nat → Nat) (n : Nesting σ) : Nesting σ :=
  ⟨n.innermost.renumber f, n.outer.map (OpenBlock.renumber f)⟩

def Progress.renumber (f : Nat → Nat) : Progress σ → Progress σ
  | .inside n => .inside (n.renumber f)
  | .closed node => .closed (node.renumber f)

def Reading.renumber (f : Nat → Nat) (s : Reading σ) : Reading σ :=
  ⟨s.roots.map (Node.renumber f), s.nesting.map (Nesting.renumber f)⟩

def renumberOutcome (f : Nat → Nat) :
    Except DefinitionError (List (Node σ)) → Except DefinitionError (List (Node σ))
  | .ok roots => .ok (roots.map (Node.renumber f))
  | .error e => .error (e.renumber f)

theorem renumberOutcome_renumberOutcome (f g : Nat → Nat) (x : Except DefinitionError (List (Node σ))) :
    renumberOutcome g (renumberOutcome f x) = renumberOutcome (g ∘ f) x := by
  cases x with
  | error e => rfl
  | ok roots => simp [renumberOutcome, Node.renumber_renumber]

theorem Effect.on_renumber (e : Effect) (f : Nat → Nat) (c : Command σ) :
    e.on (c.renumber f) = (e.on c).renumber f := by
  cases e <;> rfl

theorem readHeader_renumber (r : Registries) (f : Nat → Nat) (header : List Char) (number : Nat)
    (parent : Option String) :
    (readHeader (σ := σ) r header (f number) parent).value =
      (readHeader r header number parent).value.map (Command.renumber f) := by
  rw [readHeader_value, readHeader_value]
  cases readNaming header with
  | error cause => rfl
  | ok n =>
      simp only [Except.bind]
      cases (Signature.read r ⟨[], []⟩ n.parameters).value <;> rfl

theorem finish_renumber (f : Nat → Nat) (b : OpenBlock σ) : (b.renumber f).finish = b.finish.renumber f := by
  rw [OpenBlock.finish, OpenBlock.finish, Node.renumber_mk]
  rfl

theorem close_renumber (f : Nat → Nat) (n : Nesting σ) : (n.renumber f).close = n.close.renumber f := by
  obtain ⟨innermost, outer⟩ := n
  cases outer with
  | nil => exact congrArg Progress.closed (finish_renumber f innermost)
  | cons parent outer =>
      simp [Nesting.close, Nesting.renumber, Progress.renumber, OpenBlock.addChild, OpenBlock.renumber,
        ← finish_renumber]

theorem asRoot_renumber (f : Nat → Nat) (node : Node σ) : asRoot (node.renumber f) = (asRoot node).renumber f := by
  cases node with
  | mk c children =>
      rw [asRoot, Node.renumber_mk, Node.renumber_mk]
      rfl

theorem amend_renumber (f : Nat → Nat) (n : Nesting σ) (e : Effect) :
    (n.renumber f).amend e = (n.amend e).renumber f := by
  rw [Nesting.amend, Nesting.amend]
  simp [Progress.renumber, Nesting.renumber, OpenBlock.renumber, e.on_renumber]

theorem Nesting.read_renumber (r : Registries) (f : Nat → Nat) (n : Nesting σ) (number : Nat) (raw : String) :
    ((n.renumber f).read r (f number) raw).value = (n.read r number raw).value.map (Progress.renumber f) := by
  have hpath : (n.renumber f).innermost.command.path = n.innermost.command.path := rfl
  rw [Nesting.read_value, Nesting.read_value, hpath]
  cases Line.read raw with
  | ignored => rfl
  | close => exact congrArg Except.ok (close_renumber f n)
  | opening header =>
      simp only [readHeader_renumber]
      cases (readHeader (σ := σ) r header number (some n.innermost.command.path)).value <;> rfl
  | other text =>
      dsimp only
      cases lineEffect r text with
      | error cause => rfl
      | ok e => exact congrArg Except.ok (amend_renumber f n e)

theorem after_renumber (f : Nat → Nat) (roots : List (Node σ)) (p : Progress σ) :
    Reading.after (roots.map (Node.renumber f)) (p.renumber f) = (Reading.after roots p).renumber f := by
  cases p with
  | inside n => rfl
  | closed node => simp [Reading.after, Progress.renumber, Reading.renumber, asRoot_renumber]

theorem Reading.read_renumber (r : Registries) (f : Nat → Nat) (s : Reading σ) (number : Nat) (raw : String) :
    ((s.renumber f).read r (f number) raw).value = (s.read r number raw).value.map (Reading.renumber f) := by
  obtain ⟨roots, nesting⟩ := s
  rw [read_value, read_value]
  cases nesting with
  | some n =>
      simp only [Reading.renumber, Option.map_some, Nesting.read_renumber]
      cases (n.read r number raw).value with
      | error cause => rfl
      | ok p => exact congrArg Except.ok (after_renumber f roots p)
  | none =>
      simp only [Reading.renumber, Option.map_none]
      cases Line.read raw with
      | ignored => rfl
      | close => rfl
      | other text => rfl
      | opening header =>
          simp only [readHeader_renumber]
          cases (readHeader (σ := σ) r header number none).value <;> rfl

theorem Reading.finish_renumber (f : Nat → Nat) (s : Reading σ) :
    (s.renumber f).finish = renumberOutcome f s.finish := by
  obtain ⟨roots, nesting⟩ := s
  cases nesting <;> rfl

end Definition

end CommandTree
