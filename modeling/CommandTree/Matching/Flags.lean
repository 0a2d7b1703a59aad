import CommandTree.Node

/-!
Taking the flags out of a token list. A token that names a flag is an occurrence of the first such flag;
unless the flag is a switch, the next token is its value, whatever that token is. All other tokens are
positional. The last occurrence of a flag counts.
-/

namespace CommandTree.Matching

def flagNamed? (flags : List Flag) (token : String) : Option Flag :=
  flags.find? (·.answersTo token)

/-- The positional tokens of a list, and the values of its flag occurrences by the position of the flag. -/
structure Extraction where
  positional : List String
  occurrences : List (Nat × Value)

def separate (flags : List Flag) (actor : Actor) : List String → Logged (Option Extraction)
  | [] => pure (some ⟨[], []⟩)
  | token :: tokens =>
      match flagNamed? flags token with
      | none => do
          match ← separate flags actor tokens with
          | none => pure none
          | some e => pure (some ⟨token :: e.positional, e.occurrences⟩)
      | some flag =>
          if flag.isSwitch then do
            match ← separate flags actor tokens with
            | none => pure none
            | some e => pure (some ⟨e.positional, (flag.position, .boolean true) :: e.occurrences⟩)
          else
            match tokens with
            | [] => pure none
            | text :: rest => do
                match ← flag.type.convert (some actor) text with
                | none => pure none
                | some value =>
                    match ← separate flags actor rest with
                    | none => pure none
                    | some e => pure (some ⟨e.positional, (flag.position, value) :: e.occurrences⟩)

def lastOccurrence? (occurrences : List (Nat × Value)) (position : Nat) : Option Value :=
  (occurrences.reverse.find? (·.1 == position)).map (·.2)

def flagSlots (occurrences : List (Nat × Value)) (actor : Actor) :
    Nat → List Flag → Logged (List (Option Value))
  | _, [] => pure []
  | index, flag :: flags => do
      let slot ←
        match lastOccurrence? occurrences index with
        | some value => pure (some value)
        | none => flag.defaultFor actor
      let slots ← flagSlots occurrences actor (index + 1) flags
      pure (slot :: slots)

def extractFlags (flags : List Flag) (actor : Actor) (tokens : List String) :
    Logged (Option (List String × List (Option Value))) := do
  match ← separate flags actor tokens with
  | none => pure none
  | some e =>
      let slots ← flagSlots e.occurrences actor 0 flags
      pure (some (e.positional, slots))

end CommandTree.Matching
