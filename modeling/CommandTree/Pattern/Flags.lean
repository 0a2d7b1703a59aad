import CommandTree.Pattern.Expression
import CommandTree.Text.Blank

namespace CommandTree.Pattern

open Text

structure Flags where
  anyCase : Bool
  manyLines : Bool
  dotTakesLineEnds : Bool
  swapsGreed : Bool
  isUnicode : Bool
  withReturns : Bool
  skipsBlanks : Bool

namespace Flags

def standard : Flags where
  anyCase := false
  manyLines := false
  dotTakesLineEnds := false
  swapsGreed := false
  isUnicode := true
  withReturns := false
  skipsBlanks := false

def letters : List Char := ['i', 'm', 's', 'U', 'u', 'R', 'x']

def set (f : Flags) (isOn : Bool) (letter : Char) : Flags :=
  match letter with
  | 'i' => { f with anyCase := isOn }
  | 'm' => { f with manyLines := isOn }
  | 's' => { f with dotTakesLineEnds := isOn }
  | 'U' => { f with swapsGreed := isOn }
  | 'u' => { f with isUnicode := isOn }
  | 'R' => { f with withReturns := isOn }
  | 'x' => { f with skipsBlanks := isOn }
  | _ => f

def isList (marks : List Char) : Bool :=
  marks.all (fun c => c == '-' || letters.contains c) && marks.eraseDups == marks
    && marks.getLast? != some '-'

def change (f : Flags) (marks : List Char) : Flags :=
  let raised := (marks.takeWhile (· != '-')).foldl (·.set true ·) f
  (marks.dropWhile (· != '-')).foldl (·.set false ·) raised

def skipRemarks : Bool → List Char → List Char
  | _, [] => []
  | true, c :: rest => skipRemarks (c != '\n') rest
  | false, c :: rest =>
      if isBlank c then skipRemarks false rest
      else if c == '#' then skipRemarks true rest
      else c :: rest

def skip (f : Flags) (cs : List Char) : List Char :=
  if f.skipsBlanks then skipRemarks false cs else cs

def folded (f : Flags) (c : CharClass) : Option CharClass :=
  if !f.anyCase then some c
  else if f.isUnicode then none
  else some (.anyCase c)

def complement (f : Flags) (c : CharClass) : Option CharClass :=
  if f.isUnicode then some (.complement c) else none

def dot (f : Flags) : Option CharClass :=
  if !f.isUnicode then none
  else if f.dotTakesLineEnds then some .everything
  else if f.withReturns then some (.complement (.union (.single '\n') (.single '\r')))
  else some (.complement (.single '\n'))

def lineStart (f : Flags) : Look :=
  if f.manyLines then .lineStart f.withReturns else .textStart

def lineEnd (f : Flags) : Look :=
  if f.manyLines then .lineEnd f.withReturns else .textEnd

end Flags

end CommandTree.Pattern
