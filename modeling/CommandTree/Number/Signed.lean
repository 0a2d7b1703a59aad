
namespace CommandTree.Number

def digitsFrom (high : Nat) : List Char → Option Nat
  | [] => some high
  | c :: rest =>
      if '0' ≤ c && c ≤ '9' then digitsFrom (10 * high + (c.toNat - '0'.toNat)) rest else none

def readNatural : List Char → Option Nat
  | [] => none
  | cs@(_ :: _) => digitsFrom 0 cs

def readInteger : List Char → Option Int
  | '-' :: cs => (readNatural cs).map fun n => -(n : Int)
  | '+' :: cs => (readNatural cs).map Int.ofNat
  | cs => (readNatural cs).map Int.ofNat

def fits (bits : Nat) (n : Int) : Bool :=
  -(Nat.pow 2 bits : Int) ≤ n && n < (Nat.pow 2 bits : Int)

def readInt32 (text : String) : Option Int32 :=
  match readInteger text.toList with
  | some n => if fits 31 n then some (Int32.ofInt n) else none
  | none => none

def readInt64 (text : String) : Option Int64 :=
  match readInteger text.toList with
  | some n => if fits 63 n then some (Int64.ofInt n) else none
  | none => none

end CommandTree.Number
