import CommandTree.Pattern.Flags
import CommandTree.Text.Escape

namespace CommandTree.Pattern

open Text

inductive Escaped where
  | literal (c : Char)
  | members (c : CharClass)
  | look (l : Look)

def hexDigits (f : Flags) : Nat → Nat → Reader Nat
  | 0, high, cs => some (high, cs)
  | count + 1, high, cs =>
      match f.skip cs with
      | [] => none
      | c :: rest => (hexValue? c).bind fun d => hexDigits f count (16 * high + d) rest

def numberedCharacter (f : Flags) (count : Nat) : Reader Escaped := fun cs => do
  let (n, rest) ← hexDigits f count 0 cs
  let isWhole := n.isValidChar && (f.isUnicode || count != 2 || n < 0x80)
  if isWhole then some (.literal (Char.ofNat n), rest) else none

def shorthand (f : Flags) (c : CharClass) : Option Escaped :=
  if f.isUnicode then none else some (.members c)

def wordLook (f : Flags) (l : Look) : Option Escaped :=
  if f.isUnicode then none else some (.look l)

def isEscapable (c : Char) : Bool :=
  c.toNat < 0x80 && !c.isAlphanum && c != '<' && c != '>'

def escapedLetter (f : Flags) (c : Char) : Option Escaped :=
  match c with
  | 'a' => some (.literal '\x07')
  | 'f' => some (.literal '\x0c')
  | 't' => some (.literal '\t')
  | 'n' => some (.literal '\n')
  | 'r' => some (.literal '\r')
  | 'v' => some (.literal '\x0b')
  | 'A' => some (.look .textStart)
  | 'z' => some (.look .textEnd)
  | 'b' => wordLook f .wordEdge
  | 'B' => wordLook f .noWordEdge
  | '<' => wordLook f .wordStart
  | '>' => wordLook f .wordEnd
  | 'd' => shorthand f .digits
  | 's' => shorthand f .blanks
  | 'w' => shorthand f .wordCharacters
  | c => if isEscapable c then some (.literal c) else none

def escaped (f : Flags) : Reader Escaped
  | [] => none
  | 'x' :: rest => numberedCharacter f 2 rest
  | 'u' :: rest => numberedCharacter f 4 rest
  | 'U' :: rest => numberedCharacter f 8 rest
  | c :: rest => (escapedLetter f c).map (·, rest)

end CommandTree.Pattern
