import CommandTree.Text.Escape

namespace CommandTree.Toml

open Text

def isSpace (c : Char) : Bool :=
  c == ' ' || c == '\t'

def skipSpaces (cs : List Char) : List Char :=
  cs.dropWhile isSpace

def afterNewline? : List Char → Option (List Char)
  | '\n' :: rest => some rest
  | '\r' :: '\n' :: rest => some rest
  | _ => none

def skipComment : List Char → List Char
  | '#' :: rest => rest.dropWhile isPlain
  | cs => cs

def lineEnd? (cs : List Char) : Option (List Char) :=
  match skipComment (skipSpaces cs) with
  | [] => some []
  | rest => afterNewline? rest

def skipLines : Nat → List Char → List Char
  | 0, cs => cs
  | fuel + 1, cs =>
      let rest := skipSpaces cs
      match afterNewline? (skipComment rest) with
      | some next => skipLines fuel next
      | none => rest

def skipBlank (cs : List Char) : List Char :=
  skipLines cs.length cs

def literalText : Reader (List Char) := fun cs =>
  match cs.dropWhile fun c => isPlain c && c != '\'' with
  | '\'' :: rest => some (cs.takeWhile fun c => isPlain c && c != '\'', rest)
  | _ => none

/-- The end of a string of several lines: three quotes, and up to two before them that belong to it. -/
def closing? (quote : Char) (cs : List Char) : Option (List Char × List Char) :=
  match (cs.takeWhile (· == quote)).length with
  | 0 => none
  | 1 => none
  | 2 => none
  | n + 3 => some (List.replicate (min n 2) quote, cs.drop (min n 2 + 3))

def skipEmptyLines : List Char → List Char
  | [] => []
  | '\r' :: '\n' :: rest => skipEmptyLines rest
  | c :: rest => if isSpace c || c == '\n' then skipEmptyLines rest else c :: rest

def joined? (cs : List Char) : Option (List Char) :=
  (afterNewline? (skipSpaces cs)).map skipEmptyLines

def blockContent (quote : Char) (escapes : Bool) : Nat → Reader (List Char)
  | 0, _ => none
  | _ + 1, [] => none
  | fuel + 1, c :: rest =>
      match closing? quote (c :: rest), afterNewline? (c :: rest) with
      | some ending, _ => some ending
      | none, some next => do
          let (content, rest) ← blockContent quote escapes fuel next
          some ('\n' :: content, rest)
      | none, none =>
          if escapes && c == '\\' then
            match joined? rest with
            | some next => blockContent quote escapes fuel next
            | none => do
                let (written, rest) ← escape rest
                let (content, rest) ← blockContent quote escapes fuel rest
                some (written :: content, rest)
          else if isPlain c then do
            let (content, rest) ← blockContent quote escapes fuel rest
            some (c :: content, rest)
          else none

def blockText (quote : Char) (escapes : Bool) : Reader (List Char) := fun cs =>
  blockContent quote escapes (cs.length + 1) ((afterNewline? cs).getD cs)

def string : Reader (List Char)
  | '"' :: '"' :: '"' :: rest => blockText '"' true rest
  | '\'' :: '\'' :: '\'' :: rest => blockText '\'' false rest
  | '"' :: rest => quotedText rest
  | '\'' :: rest => literalText rest
  | _ => none

def isBareKeyChar (c : Char) : Bool :=
  c.isAlphanum || c == '_' || c == '-'

def keyPart : Reader (List Char)
  | '"' :: rest => quotedText rest
  | '\'' :: rest => literalText rest
  | cs =>
      match cs.takeWhile isBareKeyChar with
      | [] => none
      | part => some (part, cs.dropWhile isBareKeyChar)

def keyFrom : Nat → Reader (List String)
  | 0, _ => none
  | fuel + 1, cs => do
      let (part, rest) ← keyPart (skipSpaces cs)
      match skipSpaces rest with
      | '.' :: rest =>
          let (parts, rest) ← keyFrom fuel rest
          some (String.ofList part :: parts, rest)
      | rest => some ([String.ofList part], rest)

def depthLimit : Nat := 79

def key : Reader (List String) :=
  keyFrom depthLimit

end CommandTree.Toml
