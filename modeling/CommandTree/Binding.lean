import CommandTree.Node

/-!
Binding the hooks of a forest to handlers. The first hook that no table provides, or whose handler takes
another number of parameters than the command supplies, ends the binding; what was bound before it stays
bound.
-/

namespace CommandTree

inductive BindingError where
  | missingHook (path hook : String) (line : Nat)
  | arityMismatch (path hook : String) (expected found : Nat)
  deriving DecidableEq

def BindingError.message : BindingError → String
  | .missingHook path hook line =>
      "command '" ++ path ++ "' (line " ++ toString line ++ ") uses hook '" ++ hook
        ++ "', which no handler table provides"
  | .arityMismatch path hook expected found =>
      "hook '" ++ hook ++ "' for command '" ++ path ++ "' takes " ++ toString found
        ++ " parameters, but the definition supplies " ++ toString expected

structure Bound (α : Type) where
  result : α
  error : Option BindingError

variable {σ : Type}

def Command.bind (tables : List (HookTable σ)) (c : Command σ) : Logged (Bound (Command σ)) :=
  match c.hook with
  | none => do
      Logged.report (.hookAbsent c.path)
      pure ⟨c, none⟩
  | some hook =>
      match HookTable.firstOf tables hook with
      | none => pure ⟨c, some (.missingHook c.path hook c.line)⟩
      | some handler =>
          if handler.arity = c.expectedArity then do
            Logged.report (.hookBound c.path hook)
            pure ⟨{ c with handler := some handler }, none⟩
          else pure ⟨c, some (.arityMismatch c.path hook c.expectedArity handler.arity)⟩

namespace Node

mutual

def bind (tables : List (HookTable σ)) : Node σ → Logged (Bound (Node σ))
  | mk command children => do
      let bound ← command.bind tables
      match bound.error with
      | some error => pure ⟨mk bound.result children, some error⟩
      | none =>
          let rest ← bindAll tables children
          pure ⟨mk bound.result rest.result, rest.error⟩

def bindAll (tables : List (HookTable σ)) : List (Node σ) → Logged (Bound (List (Node σ)))
  | [] => pure ⟨[], none⟩
  | node :: nodes => do
      let bound ← node.bind tables
      match bound.error with
      | some error => pure ⟨bound.result :: nodes, some error⟩
      | none =>
          let rest ← bindAll tables nodes
          pure ⟨bound.result :: rest.result, rest.error⟩

end

end Node

end CommandTree
