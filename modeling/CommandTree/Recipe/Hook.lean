import CommandTree.Handler

namespace CommandTree.Recipe

open Number

abbrev CallLog := List String

inductive Reaction where
  | echo
  | fixed (response : Response)

def bitsText (x : Double) : String :=
  let digits := Nat.toDigits 16 x.bits.toNat
  String.ofList (List.replicate (16 - digits.length) '0' ++ digits)

def valueText : Option Value → String
  | none => "-"
  | some (.int n) => "i:" ++ toString n.toInt
  | some (.long n) => "l:" ++ toString n.toInt
  | some (.double x) => "d:" ++ bitsText x
  | some (.boolean b) => "b:" ++ toString b
  | some (.string s) => "s:" ++ s
  | some (.custom ⟨_, .text s⟩) => "c:" ++ s
  | some (.custom ⟨_, .byte b⟩) => "u:" ++ toString b.toNat

def callText (name : String) (actor : Actor) (values : List (Option Value)) : String :=
  name ++ "(" ++ actor.name ++ "|" ++ ",".intercalate (values.map valueText) ++ ")"

def hook (name : String) (parameters : List Parameter) (reaction : Reaction) : String × Handler CallLog :=
  (name,
    Handler.typed parameters fun actor values calls =>
      let call := callText name actor values
      ⟨calls ++ [call], [], match reaction with
        | .echo => .text call
        | .fixed response => response⟩)

end CommandTree.Recipe
