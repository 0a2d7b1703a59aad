import CommandTree.Text.Blank

/-!
An input line and its tokens. Blanks outside double quotes separate tokens, quotes group characters and
may enclose none, and a backslash takes the next character as it is. A quote left open reaches to the
end of the line. The scan is a fold, so what it did with a line is decided before the rest is typed.
-/

namespace CommandTree

open Text

inductive Cursor where
  | between
  | within (text : List Char) (quoted escaped : Bool)
  deriving DecidableEq

structure Scan where
  finished : List String
  cursor : Cursor
  deriving DecidableEq

def Scan.start : Scan :=
  ⟨[], .between⟩

def Cursor.push (c : Char) : Cursor → Cursor
  | .between => .within [c] false false
  | .within text quoted _ => .within (text ++ [c]) quoted false

def Cursor.escape : Cursor → Cursor
  | .between => .within [] false true
  | .within text quoted _ => .within text quoted true

def Cursor.toggle : Cursor → Cursor
  | .between => .within [] true false
  | .within text quoted _ => .within text (!quoted) false

def Cursor.isEscaped : Cursor → Bool
  | .between => false
  | .within _ _ escaped => escaped

def Cursor.isQuoted : Cursor → Bool
  | .between => false
  | .within _ quoted _ => quoted

def Cursor.token? : Cursor → Option String
  | .between => none
  | .within text _ _ => some (String.ofList text)

def Scan.finish (s : Scan) : Scan :=
  ⟨s.finished ++ s.cursor.token?.toList, .between⟩

def Scan.step (s : Scan) (c : Char) : Scan :=
  if s.cursor.isEscaped then ⟨s.finished, s.cursor.push c⟩
  else if c = '\\' then ⟨s.finished, s.cursor.escape⟩
  else if c = '"' then ⟨s.finished, s.cursor.toggle⟩
  else if isBlank c && !s.cursor.isQuoted then s.finish
  else ⟨s.finished, s.cursor.push c⟩

def Scan.run (s : Scan) (cs : List Char) : Scan :=
  cs.foldl Scan.step s

def Scan.tokens (s : Scan) : List String :=
  s.finished ++ s.cursor.token?.toList

/-- Every token read, the last one being the token at the cursor; between tokens that one is empty. -/
def Scan.typed (s : Scan) : List String :=
  s.finished ++ [s.cursor.token?.getD ""]

def tokenize (line : String) : List String :=
  (Scan.start.run line.toList).tokens

def tokenizeTyped (line : String) : List String :=
  (Scan.start.run line.toList).typed

def escapeQuotes : List Char → List Char
  | [] => []
  | c :: rest => if c = '"' || c = '\\' then '\\' :: c :: escapeQuotes rest else c :: escapeQuotes rest

def quoteIfNeeded (candidate : String) : String :=
  if candidate.toList.any isBlank then
    String.ofList ('"' :: (escapeQuotes candidate.toList ++ ['"']))
  else candidate

def dropSlash (line : String) : String :=
  match trimStart line.toList with
  | '/' :: rest => String.ofList rest
  | text => String.ofList text

end CommandTree
