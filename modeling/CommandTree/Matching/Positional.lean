import CommandTree.Node

/-!
Assigning positional tokens to arguments, from left to right. Where there are fewer tokens than arguments
some optional ones are skipped: at each optional argument the token goes to the first of the reachable
arguments that accepts it and leaves the rest of the line satisfiable, and the generic string type gives
way to any other that accepts the token too.
-/

namespace CommandTree.Matching

/-- An argument that may take the current token: how many arguments before it are skipped, the argument,
those after it, and the value it makes of the token. -/
structure Candidate where
  skipped : Nat
  argument : Argument
  following : List Argument
  value : Value

def takeTokens (a : Argument) (actor : Actor) (token : String) (rest : List String) :
    Logged (Option Value) :=
  if a.isVariadic then a.type.convert (some actor) (" ".intercalate (token :: rest))
  else a.type.convert (some actor) token

def isFeasible (a : Argument) (following : List Argument) (rest : Nat) : Bool :=
  a.isVariadic
    || (following.countP (!·.isOptional) ≤ rest
        && (following.any (·.isVariadic) || rest ≤ following.length))

/-- The arguments that accept the token, no more than `budget` being skipped, up to the first required
one. `skipped` arguments lie before the list. -/
def candidates (actor : Actor) (token : String) (rest : List String) :
    Nat → Nat → List Argument → Logged (List Candidate)
  | _, _, [] => pure []
  | budget, skipped, a :: following => do
      let here ←
        if isFeasible a following rest.length then do
          match ← takeTokens a actor token rest with
          | some value => pure [⟨skipped, a, following, value⟩]
          | none => pure []
        else pure []
      match a.isOptional, budget with
      | true, more + 1 =>
          let others ← candidates actor token rest more (skipped + 1) following
          pure (here ++ others)
      | _, _ => pure here

def prefer (cs : List Candidate) : Option Candidate :=
  match cs.find? (!·.argument.type.isString) with
  | some c => some c
  | none => cs.head?

def pickCandidate (arguments : List Argument) (budget : Nat) (actor : Actor) (token : String)
    (rest : List String) : Logged (Option Candidate) := do
  let found ← candidates actor token rest budget 0 arguments
  pure (prefer found)

def noSlots (arguments : List Argument) : List (Option Value) :=
  arguments.map fun _ => none

def consSlot (value : Value) (slots : Option (List (Option Value))) : Option (List (Option Value)) :=
  slots.map (some value :: ·)

def assign (actor : Actor) :
    List Argument → Nat → List String → Logged (Option (List (Option Value)))
  | arguments, _, [] => pure (some (noSlots arguments))
  | [], _, _ :: _ => pure none
  | a :: following, budget, token :: rest => do
      let chosen ←
        if !a.isVariadic && 0 < budget && a.isOptional then
          pickCandidate (a :: following) budget actor token rest
        else pure none
      match chosen with
      | some c =>
          Logged.report (.candidateChosen c.argument.name c.skipped)
          let slots ←
            if c.argument.isVariadic then pure (some (noSlots c.following))
            else assign actor c.following (budget - c.skipped) rest
          pure ((consSlot c.value slots).map (List.replicate c.skipped none ++ ·))
      | none =>
          match ← takeTokens a actor token rest with
          | none => pure none
          | some value =>
              if a.isVariadic then pure (consSlot value (some (noSlots following)))
              else do
                let slots ← assign actor following budget rest
                pure (consSlot value slots)
termination_by structural _ _ tokens => tokens

def fillDefaults (actor : Actor) :
    List Argument → List (Option Value) → Logged (Option (List (Option Value)))
  | a :: arguments, slot :: slots =>
      match slot with
      | some value => do
          let filled ← fillDefaults actor arguments slots
          pure (filled.map (some value :: ·))
      | none =>
          if a.isOptional then do
            let value ← a.defaultFor actor
            let filled ← fillDefaults actor arguments slots
            pure (filled.map (value :: ·))
          else pure none
  | _, _ => pure (some [])

def hasTail (arguments : List Argument) : Bool :=
  match arguments.getLast? with
  | some a => a.isVariadic
  | none => false

/-- How many optional arguments may be skipped. A variadic tail takes surplus tokens, so every optional
argument before it may be. -/
def skipBudget (arguments : List Argument) (tokens : Nat) : Nat :=
  let lacking := arguments.length - tokens
  if hasTail arguments then max lacking (arguments.dropLast.countP (·.isOptional)) else lacking

def matchPositional (arguments : List Argument) (actor : Actor) (tokens : List String) :
    Logged (Option (List (Option Value))) := do
  if arguments.length < tokens.length && !hasTail arguments then pure none
  else do
    match ← assign actor arguments (skipBudget arguments tokens.length) tokens with
    | none => pure none
    | some slots => fillDefaults actor arguments slots

end CommandTree.Matching
