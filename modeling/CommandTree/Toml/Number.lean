import CommandTree.Document
import CommandTree.Text.Escape

namespace CommandTree.Toml

open Number Text

def moreDigits (isDigit : Char → Bool) : List Char → List Char × List Char
  | '_' :: d :: rest =>
      if isDigit d then
        let (ds, rest) := moreDigits isDigit rest
        (d :: ds, rest)
      else ([], '_' :: d :: rest)
  | d :: rest =>
      if isDigit d then
        let (ds, rest) := moreDigits isDigit rest
        (d :: ds, rest)
      else ([], d :: rest)
  | [] => ([], [])

def digits (isDigit : Char → Bool) : Reader (List Char)
  | [] => none
  | c :: rest =>
      if isDigit c then
        let (ds, rest) := moreDigits isDigit rest
        some (c :: ds, rest)
      else none

def sign : List Char → List Char × List Char
  | '+' :: rest => (['+'], rest)
  | '-' :: rest => (['-'], rest)
  | cs => ([], cs)

def decimalInteger : Reader (List Char) := fun cs =>
  let (signed, rest) := sign cs
  match rest with
  | '0' :: rest => some (signed ++ ['0'], rest)
  | rest => (digits Char.isDigit rest).map fun (ds, rest) => (signed ++ ds, rest)

def exponent : Reader (List Char)
  | c :: rest =>
      if c == 'e' || c == 'E' then do
        let (signed, rest) := sign rest
        let (ds, rest) ← digits Char.isDigit rest
        some ('e' :: (signed ++ ds), rest)
      else none
  | [] => none

def fractional : Reader (List Char)
  | '.' :: rest => do
      let (ds, rest) ← digits Char.isDigit rest
      match exponent rest with
      | some (power, rest) => some ('.' :: (ds ++ power), rest)
      | none => some ('.' :: ds, rest)
  | cs => exponent cs

def decimal : Reader Document := fun cs => do
  let (whole, rest) ← decimalInteger cs
  let (part, rest) ← fractional rest
  let x ← Double.read (String.ofList (whole ++ part))
  if x = Double.infinity then none else some (.float x, rest)

def special : Reader Document := fun cs =>
  let (signed, rest) := sign cs
  let withSign (x : Double) := if signed == ['-'] then x.negate else x
  match rest with
  | 'i' :: 'n' :: 'f' :: rest => some (.float (withSign Double.infinity), rest)
  | 'n' :: 'a' :: 'n' :: rest => some (.float (withSign Double.nan), rest)
  | _ => none

def integerOf (n : Int) : Option Document :=
  if fits 63 n then some (.integer n) else none

def basedInteger (base : Nat) : Reader Document := fun cs => do
  let isDigit (c : Char) := (hexValue? c).any (· < base)
  let (ds, rest) ← digits isDigit cs
  let n ← integerOf (ds.foldl (fun n c => base * n + (hexValue? c).getD 0) 0 : Nat)
  some (n, rest)

def integer : Reader Document
  | '0' :: 'x' :: rest => basedInteger 16 rest
  | '0' :: 'o' :: rest => basedInteger 8 rest
  | '0' :: 'b' :: rest => basedInteger 2 rest
  | cs => do
      let (text, rest) ← decimalInteger cs
      let n ← readInteger text
      let d ← integerOf n
      some (d, rest)

def number : Reader Document := fun cs =>
  ((decimal cs).orElse fun _ => special cs).orElse fun _ => integer cs

end CommandTree.Toml
