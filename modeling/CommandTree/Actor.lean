import CommandTree.Text.Lowercase

namespace CommandTree

/-- A kind of actor. As a restriction, `everyone` means none. -/
inductive SenderKind where
  | everyone
  | player
  | console
  deriving DecidableEq

namespace SenderKind

def accepts (restriction kind : SenderKind) : Bool :=
  restriction == .everyone || restriction == kind

def word : SenderKind → String
  | .everyone => "everyone"
  | .player => "player"
  | .console => "console"

def ofWord? (word : String) : Option SenderKind :=
  match String.ofList (Text.lowercase word.toList) with
  | "player" => some .player
  | "players" => some .player
  | "console" => some .console
  | "everyone" => some .everyone
  | "all" => some .everyone
  | "any" => some .everyone
  | _ => none

end SenderKind

structure Actor where
  name : String
  kind : SenderKind
  holds : String → Bool

def Actor.granted (name : String) (kind : SenderKind) (permissions : List String) : Actor :=
  ⟨name, kind, permissions.contains⟩

def Actor.console : Actor :=
  ⟨"console", .console, fun _ => true⟩

end CommandTree
