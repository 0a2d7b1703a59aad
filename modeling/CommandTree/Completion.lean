import CommandTree.Line
import CommandTree.Matching.Flags

/-!
Completion of the token at the cursor. Finished tokens are followed through the tree by alias; every
command on the way offers the slot that the tokens behind it lead to, and the last one its subcommands.
-/

namespace CommandTree

open Text Matching

variable {σ : Type}

def positionalCount (flags : List Flag) : List String → Nat
  | [] => 0
  | token :: tokens =>
      match flagNamed? flags token with
      | none => positionalCount flags tokens + 1
      | some flag =>
          if flag.isSwitch then positionalCount flags tokens
          else
            match tokens with
            | [] => 0
            | _ :: rest => positionalCount flags rest

def flagBefore? (flags : List Flag) (typed : List String) : Option Flag :=
  match typed.getLast? with
  | none => none
  | some token =>
      match flagNamed? flags token with
      | some flag => if flag.isSwitch then none else some flag
      | none => none

def argumentAt? (arguments : List Argument) (index : Nat) : Option Argument :=
  match arguments[index]? with
  | some a => some a
  | none =>
      match arguments.getLast? with
      | some a => if a.isVariadic then some a else none
      | none => none

def startsWithDash (token : String) : Bool :=
  match token.toList with
  | '-' :: _ => true
  | _ => false

def Command.slotCandidates (c : Command σ) (actor : Actor) (typed : List String) (current : String) :
    Logged (List String) :=
  if startsWithDash current && !c.flags.isEmpty then
    pure ((c.flags.filter fun flag => !typed.any flag.answersTo).flatMap Flag.names)
  else
    match flagBefore? c.flags typed with
    | some flag => flag.type.complete actor
    | none =>
        match argumentAt? c.arguments (positionalCount c.flags typed) with
        | some a => a.type.complete actor
        | none => pure []

def Command.ownCandidates (c : Command σ) (actor : Actor) (typed : List String) (current : String) :
    Logged (List String) :=
  if c.hidesFromCompletion then pure []
  else do
    let found ← c.slotCandidates actor typed current
    pure ((found.filter (startsIgnoringCase · current)).map quoteIfNeeded)

namespace Node

def childCandidates (actor : Actor) (current : String) (children : List (Node σ)) : List String :=
  ((children.filter fun n => !n.command.hidesFromCompletion && n.command.isPermitted actor).map
    (·.command.name)).filter (startsIgnoringCase · current)

mutual

def offers (actor : Actor) (current : String) : Node σ → List String → Logged (List String)
  | mk c children, typed =>
      if c.isPermitted actor then do
        let below ←
          match typed with
          | [] => pure (childCandidates actor current children)
          | first :: rest => offersAll actor current first rest children
        let own ← c.ownCandidates actor typed current
        pure (below ++ own)
      else pure []

def offersAll (actor : Actor) (current : String) (first : String) (rest : List String) :
    List (Node σ) → Logged (List String)
  | [] => pure []
  | node :: nodes =>
      if node.command.hasAlias first then do
        let here ← node.offers actor current rest
        let others ← offersAll actor current first rest nodes
        pure (here ++ others)
      else offersAll actor current first rest nodes

end

end Node

def firstSeen (texts : List String) : List String :=
  texts.foldl (fun seen text => if seen.contains text then seen else seen ++ [text]) []

/-- The candidates for the last of the tokens, behind the label of a root. -/
def Node.complete (node : Node σ) (actor : Actor) (tokens : List String) : Logged (List String) := do
  let found ← node.offers actor (tokens.getLast?.getD "") tokens.dropLast
  pure (firstSeen found)

end CommandTree
