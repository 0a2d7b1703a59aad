
namespace CommandTree.Text

abbrev Reader (α : Type) := List Char → Option (α × List Char)

def hexValue? (c : Char) : Option Nat :=
  if '0' ≤ c && c ≤ '9' then some (c.toNat - '0'.toNat)
  else if 'a' ≤ c && c ≤ 'f' then some (c.toNat - 'a'.toNat + 10)
  else if 'A' ≤ c && c ≤ 'F' then some (c.toNat - 'A'.toNat + 10)
  else none

def hexNumber : Nat → Nat → Reader Nat
  | 0, high, cs => some (high, cs)
  | _ + 1, _, [] => none
  | digits + 1, high, c :: cs =>
      match hexValue? c with
      | some d => hexNumber digits (16 * high + d) cs
      | none => none

def numbered (digits : Nat) : Reader Char := fun cs =>
  match hexNumber digits 0 cs with
  | some (n, rest) => if n.isValidChar then some (Char.ofNat n, rest) else none
  | none => none

def escapeLetters : List (Char × Char) :=
  [('"', '"'), ('\\', '\\'), ('b', '\x08'), ('f', '\x0c'), ('n', '\n'), ('r', '\r'), ('t', '\t')]

def escape : Reader Char
  | [] => none
  | 'u' :: cs => numbered 4 cs
  | 'U' :: cs => numbered 8 cs
  | c :: rest => (escapeLetters.lookup c).map (·, rest)

def isPlain (c : Char) : Bool :=
  c == '\t' || (0x20 ≤ c.toNat && c.toNat != 0x7f)

def quotedContent : Nat → Reader (List Char)
  | 0, _ => none
  | _ + 1, [] => none
  | _ + 1, '"' :: rest => some ([], rest)
  | fuel + 1, '\\' :: rest => do
      let (c, rest) ← escape rest
      let (content, rest) ← quotedContent fuel rest
      some (c :: content, rest)
  | fuel + 1, c :: rest =>
      if isPlain c then do
        let (content, rest) ← quotedContent fuel rest
        some (c :: content, rest)
      else none

def quotedText : Reader (List Char) := fun cs =>
  quotedContent (cs.length + 1) cs

end CommandTree.Text
