import CommandTree.Text.GraphemeExtend
import CommandTree.Text.Unprintable

namespace CommandTree.Text

def hexadecimal (n : Nat) : List Char :=
  Nat.toDigits 16 n

def numberEscape (c : Char) : List Char :=
  ['\\', 'u', '\x7b'] ++ hexadecimal c.toNat ++ ['\x7d']

def isFiller (c : Char) : Bool :=
  c.toNat == 0x115f || c.toNat == 0x1160 || c.toNat == 0x3164 || c.toNat == 0xffa0

/-- The sound marks of halfwidth Katakana. They join the character before them, but fill a column of their
own. -/
def isSoundMark (c : Char) : Bool :=
  c.toNat == 0xff9e || c.toNat == 0xff9f

def isHidden (c : Char) : Bool :=
  isUnprintable c || isFiller c || (isGraphemeExtend c && !isSoundMark c)

def escapeChar (apostrophe : Bool) (c : Char) : List Char :=
  if c.toNat = 0 then ['\\', '0']
  else if c = '\t' then ['\\', 't']
  else if c = '\r' then ['\\', 'r']
  else if c = '\n' then ['\\', 'n']
  else if c = '\\' || c = '"' then ['\\', c]
  else if c = '\'' then (if apostrophe then ['\\', c] else [c])
  else if 0x20 ≤ c.toNat && c.toNat < 0x7f then [c]
  else if isHidden c then numberEscape c
  else [c]

def quotedWith (apostrophe : Bool) (text : String) : String :=
  "\"" ++ String.ofList (text.toList.flatMap (escapeChar apostrophe)) ++ "\""

def quoted (text : String) : String :=
  quotedWith false text

def quotedPath (path : String) : String :=
  quotedWith true path

end CommandTree.Text
