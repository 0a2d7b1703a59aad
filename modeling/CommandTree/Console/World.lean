import CommandTree.Registry

namespace CommandTree.Console

/-- The tables of a world are kept in the order of their keys. -/
structure World where
  online : List String
  balances : List (String × Int64)
  warps : List (String × String)
  locations : List (String × String)
  switchTo : Option String

namespace World

def ofPlayers (online : List String) : World :=
  ⟨online, [], [], [], none⟩

def findPlayer? (w : World) (token : String) : Option String :=
  w.online.find? (Text.sameIgnoringCase · token)

def balance (w : World) (player : String) : Int64 :=
  (w.balances.lookup player).getD 0

def put {α : Type} (key : String) (value : α) : List (String × α) → List (String × α)
  | [] => [(key, value)]
  | (k, v) :: rest =>
      if key < k then (key, value) :: (k, v) :: rest
      else if k = key then (key, value) :: rest
      else (k, v) :: put key value rest

def deposit (w : World) (player : String) (amount : Int32) : World :=
  { w with balances := put player (w.balance player + amount.toInt64) w.balances }

def location (w : World) (player : String) : String :=
  (w.locations.lookup player).getD "spawn"

end World

def playerType (w : World) : ArgumentType where
  name := "player"
  converter _ token := .returned ((w.findPlayer? token).map .string)
  supplier := some fun _ => .returned w.online

def selfProvider : Provider where
  name := "self"
  supplier actor := .returned (if actor.kind == .player then some (.string actor.name) else none)
  message := some "Only players can use this without naming a player."

end CommandTree.Console
