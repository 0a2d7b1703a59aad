
namespace CommandTree.Pattern

inductive CharClass where
  | nothing
  | range (low high : Char)
  | union (a b : CharClass)
  | intersection (a b : CharClass)
  | difference (a b : CharClass)
  | symmetricDifference (a b : CharClass)
  | complement (a : CharClass)
  | anyCase (a : CharClass)
  deriving DecidableEq

def swapCase (c : Char) : Char :=
  if c.isUpper then c.toLower else c.toUpper

namespace CharClass

def holds : CharClass → Char → Bool
  | nothing, _ => false
  | range low high, c => low ≤ c && c ≤ high
  | union a b, c => a.holds c || b.holds c
  | intersection a b, c => a.holds c && b.holds c
  | difference a b, c => a.holds c && !b.holds c
  | symmetricDifference a b, c => a.holds c != b.holds c
  | complement a, c => !a.holds c
  | anyCase a, c => a.holds c || a.holds (swapCase c)

def single (c : Char) : CharClass :=
  range c c

def everything : CharClass :=
  complement nothing

def unionOf (classes : List CharClass) : CharClass :=
  classes.foldr union nothing

def digits : CharClass :=
  range '0' '9'

def lowerLetters : CharClass :=
  range 'a' 'z'

def upperLetters : CharClass :=
  range 'A' 'Z'

def letters : CharClass :=
  union lowerLetters upperLetters

def lettersAndDigits : CharClass :=
  union letters digits

def wordCharacters : CharClass :=
  union lettersAndDigits (single '_')

def blanks : CharClass :=
  unionOf [range '\t' '\r', single ' ']

def named? : String → Option CharClass
  | "alnum" => some lettersAndDigits
  | "alpha" => some letters
  | "ascii" => some (range '\x00' '\x7f')
  | "blank" => some (union (single '\t') (single ' '))
  | "cntrl" => some (union (range '\x00' '\x1f') (single '\x7f'))
  | "digit" => some digits
  | "graph" => some (range '!' '~')
  | "lower" => some lowerLetters
  | "print" => some (range ' ' '~')
  | "punct" => some (difference (range '!' '~') lettersAndDigits)
  | "space" => some blanks
  | "upper" => some upperLetters
  | "word" => some wordCharacters
  | "xdigit" => some (unionOf [digits, range 'A' 'F', range 'a' 'f'])
  | _ => none

@[simp] theorem holds_nothing (c : Char) : nothing.holds c = false := rfl

@[simp] theorem holds_everything (c : Char) : everything.holds c = true := rfl

@[simp] theorem holds_single (c d : Char) : (single c).holds d = decide (c = d) := by
  simp only [single, holds]
  by_cases h : c = d
  · subst h; simp
  · have : ¬(c ≤ d ∧ d ≤ c) := fun ⟨hcd, hdc⟩ => h (Char.le_antisymm hcd hdc)
    simpa [h] using this

end CharClass

end CommandTree.Pattern
