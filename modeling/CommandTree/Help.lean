import CommandTree.Node

/-!
Help listings. A subtree that the actor is not permitted to use is left out, and a subcommand that hides
its children is followed by one line in their place.
-/

namespace CommandTree

open Text

variable {σ : Type}

def Command.helpEntry (c : Command σ) : List String :=
  match c.help with
  | none => []
  | some text =>
      match (lines text.toList).map String.ofList with
      | [] => [c.usage ++ " - "]
      | first :: others => (c.usage ++ " - " ++ first) :: others.map ("    " ++ ·)

namespace Node

mutual

def helpBelow (actor : Actor) (hiddenLabel : String) (isRequested : Bool) : Node σ → List String
  | mk c children =>
      if c.isPermitted actor then
        c.helpEntry
          ++ (if !isRequested && c.hidesChildren && !children.isEmpty then
                ["/" ++ c.path ++ " " ++ hiddenLabel]
              else helpAll actor hiddenLabel children)
      else []

def helpAll (actor : Actor) (hiddenLabel : String) : List (Node σ) → List String
  | [] => []
  | node :: nodes => node.helpBelow actor hiddenLabel false ++ helpAll actor hiddenLabel nodes

end

def helpLines (node : Node σ) (actor : Actor) (hiddenLabel : String) : List String :=
  node.helpBelow actor hiddenLabel true

end Node

end CommandTree
