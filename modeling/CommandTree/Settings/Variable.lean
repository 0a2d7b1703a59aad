import CommandTree.Document
import CommandTree.Text.Blank
import CommandTree.Text.Escape

namespace CommandTree.Variable

open Number Text

def isSpace (c : Char) : Bool :=
  c == ' ' || c == '\t' || c == '\n' || c == '\x0c' || c == '\r'

def skipSpaces (cs : List Char) : List Char :=
  cs.dropWhile isSpace

def isBare (c : Char) : Bool :=
  c != ',' && c != '\x7b' && c != '\x7d' && c != '[' && c != ']'

def isKeyChar (c : Char) : Bool :=
  c.isAlphanum || c == '_' || c == '-'

def unsigned? (text : List Char) : Option Int :=
  match text with
  | '-' :: _ => none
  | _ => (readInteger text).filter fun n => 0 ≤ n && n < Nat.pow 2 64

def bareValue (text : List Char) : Document :=
  let word := String.ofList text
  let decimal := if text.contains '.' then Double.read word else none
  match decimal, unsigned? text, readInt64 word with
  | some x, _, _ => .float x
  | none, some n, _ => .integer n
  | none, none, some n => .integer n.toInt
  | none, none, none => .text word

def key : Reader String
  | '"' :: rest => (quotedText rest).map fun (name, rest) => (String.ofList name, rest)
  | cs =>
      match cs.takeWhile isKeyChar with
      | [] => none
      | name => some (String.ofList name, cs.dropWhile isKeyChar)

mutual

/-- A value and the spaces around it. The number bounds the steps of reading. -/
def value : Nat → Reader Document
  | 0, _ => none
  | fuel + 1, cs => do
      let (d, rest) ← bracketed fuel (skipSpaces cs)
      some (d, skipSpaces rest)

def bracketed : Nat → Reader Document
  | 0, _ => none
  | _ + 1, 't' :: 'r' :: 'u' :: 'e' :: rest => some (.boolean true, rest)
  | _ + 1, 'f' :: 'a' :: 'l' :: 's' :: 'e' :: rest => some (.boolean false, rest)
  | fuel + 1, '[' :: rest => do
      let (items, rest) ← items fuel rest
      some (.list items, rest)
  | fuel + 1, '\x7b' :: rest => do
      let (entries, rest) ← entries fuel rest
      some (.ofEntries entries, rest)
  | _ + 1, '"' :: rest => do
      let (s, rest) ← quotedText rest
      some (.text (String.ofList s), rest)
  | _ + 1, '\'' :: c :: '\'' :: rest => some (.character c, rest)
  | _ + 1, '\'' :: _ => none
  | _ + 1, cs => some (bareValue (trim (cs.takeWhile isBare)), cs.dropWhile isBare)

def items : Nat → Reader (List Document)
  | 0, _ => none
  | _ + 1, ']' :: rest => some ([], rest)
  | fuel + 1, cs => do
      let (first, rest) ← value fuel cs
      match rest with
      | ',' :: rest =>
          let (others, rest) ← items fuel rest
          some (first :: others, rest)
      | ']' :: rest => some ([first], rest)
      | _ => none

def entries : Nat → Reader (List (String × Document))
  | 0, _ => none
  | _ + 1, '\x7d' :: rest => some ([], rest)
  | fuel + 1, cs => do
      let (name, rest) ← key (skipSpaces cs)
      match skipSpaces rest with
      | '=' :: rest =>
          let (d, rest) ← value fuel rest
          match rest with
          | ',' :: rest =>
              let (others, rest) ← entries fuel rest
              some ((name, d) :: others, rest)
          | '\x7d' :: rest => some ([(name, d)], rest)
          | _ => none
      | _ => none

end

def content (text : String) : Document :=
  match value (3 * text.length + 3) text.toList with
  | some (d, []) => d
  | _ => .text text

def nameStart : String := "QUILL_"

def path? (name : String) : Option (List String) :=
  let lower := trim (name.toList.map Char.toLower)
  match dropStart? (nameStart.toList.map Char.toLower) lower with
  | none => none
  | some rest =>
      let parts := ((String.ofList (trim rest)).replace "__" ".").splitOn "."
      if parts.any (·.isEmpty) then none else some parts

def document (environment : List (String × String)) : Document :=
  environment.foldl
    (fun d (name, text) =>
      match path? name with
      | some path => d.merge (.nest (content text) path)
      | none => d)
    (.table [])

end CommandTree.Variable
