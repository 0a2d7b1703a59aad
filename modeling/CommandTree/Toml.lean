import CommandTree.Toml.Lexeme
import CommandTree.Toml.Moment
import CommandTree.Toml.Number
import CommandTree.Toml.Table

namespace CommandTree.Toml

open Text

mutual

/-- A value. The first number bounds the steps of reading, the second one how deep values lie inside
values. -/
def value : Nat → Nat → Reader Document
  | 0, _, _ => none
  | _ + 1, _, 't' :: 'r' :: 'u' :: 'e' :: rest => some (.boolean true, rest)
  | _ + 1, _, 'f' :: 'a' :: 'l' :: 's' :: 'e' :: rest => some (.boolean false, rest)
  | _ + 1, 0, '[' :: _ => none
  | fuel + 1, depth + 1, '[' :: rest => do
      let (items, rest) ← items fuel depth (skipBlank rest)
      some (.list items, rest)
  | _ + 1, 0, '\x7b' :: _ => none
  | fuel + 1, depth + 1, '\x7b' :: rest =>
      match skipSpaces rest with
      | '\x7d' :: rest => some (.table [], rest)
      | rest => do
          let (pairs, rest) ← pairs fuel depth rest
          let d ← inlineTable pairs
          some (d, rest)
  | _ + 1, _, cs =>
      match string cs with
      | some (s, rest) => some (.text (String.ofList s), rest)
      | none => (moment cs).orElse fun _ => number cs

def items : Nat → Nat → Reader (List Document)
  | 0, _, _ => none
  | _ + 1, _, ']' :: rest => some ([], rest)
  | fuel + 1, depth, cs => do
      let (first, rest) ← value fuel depth cs
      match skipBlank rest with
      | ',' :: rest =>
          let (others, rest) ← items fuel depth (skipBlank rest)
          some (first :: others, rest)
      | ']' :: rest => some ([first], rest)
      | _ => none

def pairs : Nat → Nat → Reader (List (List String × Document))
  | 0, _, _ => none
  | fuel + 1, depth, cs => do
      let (name, rest) ← key cs
      match rest with
      | '=' :: rest =>
          let (d, rest) ← value fuel depth (skipSpaces rest)
          match skipSpaces rest with
          | ',' :: rest =>
              let (others, rest) ← pairs fuel depth rest
              some ((name, d) :: others, rest)
          | '\x7d' :: rest => some ([(name, d)], rest)
          | _ => none
      | _ => none

end

structure Progress where
  entries : Entries
  current : List String

def Progress.define (p : Progress) (name : List String) (d : Document) : Option Progress :=
  let entries :=
    if p.current.isEmpty then Toml.define d name true p.entries
    else atHeader (defineIn name d) p.current p.entries
  entries.map (⟨·, p.current⟩)

inductive Statement where
  | table (key : List String)
  | listed (key : List String)
  | pair (key : List String) (d : Document)

def Progress.read (p : Progress) : Statement → Option Progress
  | .table key => (atHeader openTable key p.entries).map (⟨·, key⟩)
  | .listed key => (atHeader openListed key p.entries).map (⟨·, key⟩)
  | .pair key d => p.define key d

def statement : Reader Statement
  | '[' :: '[' :: cs => do
      let (name, rest) ← key cs
      match rest with
      | ']' :: ']' :: rest => some (.listed name, rest)
      | _ => none
  | '[' :: cs => do
      let (name, rest) ← key cs
      match rest with
      | ']' :: rest => some (.table name, rest)
      | _ => none
  | cs => do
      let (name, rest) ← key cs
      match rest with
      | '=' :: rest =>
          let (d, rest) ← value (2 * rest.length + 2) depthLimit (skipSpaces rest)
          some (.pair name d, rest)
      | _ => none

def statements : Nat → Progress → List Char → Option Progress
  | 0, _, _ => none
  | fuel + 1, p, cs =>
      match skipBlank cs with
      | [] => some p
      | '#' :: rest => if (rest.dropWhile isPlain).isEmpty then some p else none
      | cs => do
          let (s, rest) ← statement cs
          let p ← p.read s
          let rest ← lineEnd? rest
          statements fuel p rest

def dropByteOrderMark : List Char → List Char
  | c :: rest => if c.toNat = 0xfeff then rest else c :: rest
  | [] => []

def document? (text : String) : Option Document :=
  let cs := dropByteOrderMark text.toList
  (statements (cs.length + 1) ⟨[], []⟩ cs).map fun p => .table (documents p.entries)

end CommandTree.Toml
