import CommandTree.Matching.Flags
import CommandTree.Matching.Positional

/-!
Whether a token list fits a command, and the slots its handler receives if it does: one per argument, then
one per flag, then one per context provider. The shape is decided before any provider is asked.
-/

namespace CommandTree

inductive MatchOutcome where
  | matched (slots : List (Option Value))
  | noMatch
  | contextFailure (message : Option String)
  deriving DecidableEq

namespace Matching

def failingAsserter? (actor : Actor) : List Provider → Logged (Option Provider)
  | [] => pure none
  | p :: ps => do
      match ← p.supply actor with
      | some _ => failingAsserter? actor ps
      | none =>
          Logged.report (.asserterAbsent p.name)
          pure (some p)

def contextSlots (actor : Actor) : List Provider → Logged (Except Provider (List (Option Value)))
  | [] => pure (.ok [])
  | p :: ps => do
      match ← p.supply actor with
      | none =>
          Logged.report (.contextAbsent p.name)
          pure (.error p)
      | some value =>
          match ← contextSlots actor ps with
          | .error q => pure (.error q)
          | .ok slots => pure (.ok (some value :: slots))

end Matching

open Matching

def Command.matchTokens {σ : Type} (c : Command σ) (actor : Actor) (tokens : List String) :
    Logged MatchOutcome := do
  match ← extractFlags c.flags actor tokens with
  | none =>
      Logged.report (.flagRejected c.path)
      pure .noMatch
  | some (positional, flagValues) =>
      match ← matchPositional c.arguments actor positional with
      | none =>
          Logged.report (.positionalRejected c.path positional.length)
          pure .noMatch
      | some values =>
          match ← failingAsserter? actor c.asserters with
          | some p => pure (.contextFailure p.message)
          | none =>
              match ← contextSlots actor c.context with
              | .error p => pure (.contextFailure p.message)
              | .ok contextValues => pure (.matched (values ++ flagValues ++ contextValues))

end CommandTree
