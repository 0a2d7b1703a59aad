import CommandTree.Registry

namespace CommandTree.Recipe

inductive Supply where
  | actorName
  | constant (value : Option Value)
  | ifHolds (permission : String) (value : Option Value)
  | ifKind (kind : String) (value : Option Value)
  | panics
  | nothing

def Supply.supply : Supply → Actor → Attempt (Option Value)
  | .actorName, actor => .returned (some (.string actor.name))
  | .constant value, _ => .returned value
  | .ifHolds permission value, actor => .returned (if actor.holds permission then value else none)
  | .ifKind kind value, actor => .returned (if actor.kind.word == kind then value else none)
  | .panics, _ => .panicked
  | .nothing, _ => .returned none

def provider (name : String) (supply : Supply) (message : Option String) : Provider :=
  ⟨name, supply.supply, message⟩

end CommandTree.Recipe
