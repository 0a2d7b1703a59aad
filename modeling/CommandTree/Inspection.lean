import CommandTree.Inspection.Shape
import CommandTree.Manager

namespace CommandTree

open Text

open Inspection

def SenderKind.inspect : SenderKind → String
  | .everyone => "Everyone"
  | .player => "Player"
  | .console => "Console"

def Value.inspect : Value → String
  | .int n => "Int(" ++ toString n.toInt ++ ")"
  | .long n => "Long(" ++ toString n.toInt ++ ")"
  | .double x => "Double(" ++ x.text ++ ")"
  | .boolean b => "Bool(" ++ toString b ++ ")"
  | .string s => "String(" ++ quoted s ++ ")"
  | .custom _ => "Custom(..)"

def ArgumentType.inspect (t : ArgumentType) : String :=
  structureText "ArgType" true [("name", quoted t.name), ("completes", toString t.supplier.isSome)]

def Default.inspect : Default → String
  | .literal value => "Literal(" ++ value.inspect ++ ")"
  | .context provider => "Context(" ++ quoted provider.name ++ ")"

def Argument.inspect (a : Argument) : String :=
  structureText "Argument" false
    [("ty", a.type.inspect), ("name", quoted a.name), ("position", toString a.position),
      ("optional", toString a.isOptional), ("variadic", toString a.isVariadic),
      ("hide_type", toString a.hidesType), ("default", optionText (a.default.map Default.inspect))]

def Flag.inspect (f : Flag) : String :=
  structureText "Flag" false
    [("ty", f.type.inspect), ("names", listText (f.names.map quoted)),
      ("position", toString f.position), ("hide_type", toString f.hidesType),
      ("default", optionText (f.default.map Default.inspect))]

def Command.inspect {σ : Type} (c : Command σ) (children : List String) : String :=
  structureText "CommandNode" true
    [("aliases", listText (c.aliases.map quoted)), ("arguments", listText (c.arguments.map Argument.inspect)),
      ("flags", listText (c.flags.map Flag.inspect)), ("permission", optionText (c.permission.map quoted)),
      ("sender_kind", c.senderKind.inspect), ("hook", optionText (c.hook.map quoted)),
      ("children", listText children), ("bound", toString c.handler.isSome)]

namespace Node

mutual

def inspect {σ : Type} : Node σ → String
  | mk command children => command.inspect (inspectAll children)

def inspectAll {σ : Type} : List (Node σ) → List String
  | [] => []
  | node :: nodes => node.inspect :: inspectAll nodes

end

end Node

def HookTable.inspect {σ : Type} (t : HookTable σ) : String :=
  structureText "HookTable" false [("hooks", listText (t.names.map quoted))]

def Manager.inspect {σ : Type} (m : Manager σ) : String :=
  structureText "CommandManager" true
    [("prefix", quoted m.owner), ("types", listText (m.registries.types.names.map quoted)),
      ("roots", listText (m.rootNames.map quoted))]

end CommandTree
