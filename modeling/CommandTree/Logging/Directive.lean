import CommandTree.Logging.Demand
import CommandTree.Number.Signed
import CommandTree.Text.Alphabetic
import CommandTree.Text.Numeric

/-!
Directives: `target[span{fields}]=level`, where every part may be missing. A directive gives a level to the
reports of a source, or to everything that happens inside a span.
-/

namespace CommandTree.Logging

open Text

/-- The most detailed level that is let through; without one, nothing is. -/
abbrev Limit := Option Level

def admits (limit : Limit) (level : Level) : Bool :=
  match limit with
  | some least => least.rank ≤ level.rank
  | none => false

def widest (a b : Limit) : Limit :=
  match b with
  | some level => if admits a level then a else b
  | none => a

@[simp] theorem admits_widest (a b : Limit) (level : Level) :
    admits (widest a b) level = (admits a level || admits b level) := by
  rcases a with _ | a <;> rcases b with _ | b <;> try (simp [widest, admits]; done)
  cases a <;> cases b <;> cases level <;> rfl

structure Directive where
  target : Option String
  span : Option String
  demands : List Demand
  limit : Limit
  deriving DecidableEq

def readCount : List Char → Option Nat
  | '+' :: rest => Number.readNatural rest
  | cs => Number.readNatural cs

def readLimit (text : String) : Option Limit :=
  match readCount text.toList with
  | some 0 => some none
  | some 1 => some (some .error)
  | some 2 => some (some .warn)
  | some 3 => some (some .info)
  | some 4 => some (some .debug)
  | some 5 => some (some .trace)
  | some _ => none
  | none =>
      let lower := String.ofList (text.toList.map Char.toLower)
      if lower == "off" then some none else (Level.ofWord? lower).map some

namespace Directive

/-- Why a text is no directive. A broken text cannot even be cut into its parts. -/
inductive Fault where
  | malformed
  | broken
  deriving DecidableEq

def dropBytes : Nat → List Char → Option (List Char)
  | 0, cs => some cs
  | _ + 1, [] => none
  | count + 1, c :: cs =>
      if c.utf8Size ≤ count + 1 then dropBytes (count + 1 - c.utf8Size) cs else none

def takeBytes : Nat → List Char → Option (List Char)
  | 0, _ => some []
  | _ + 1, [] => none
  | count + 1, c :: cs =>
      if c.utf8Size ≤ count + 1 then (takeBytes (count + 1 - c.utf8Size) cs).map (c :: ·) else none

def cut (text : List Char) (first : Nat) (last : Option Nat) : Except Fault String :=
  let part := do
    let rest ← dropBytes first text
    match last with
    | some last => takeBytes (last - first) rest
    | none => some rest
  match part with
  | some cs => .ok (String.ofList cs)
  | none => .error .broken

inductive Stage where
  | start
  | word (first : Nat)
  | span (first : Nat)
  | field (first : Nat)
  | behindFields
  | behindSpan
  | level (first : Nat)

structure Scan where
  stage : Stage
  target : Option String
  span : Option String
  demands : List Demand

def isStart (c : Char) : Bool :=
  isAlphabetic c || isNumeric c || c == '-' || c == ':' || c == '_'

def readDemand (text : String) : Except Fault Demand :=
  match Demand.read text with
  | some d => if text.isEmpty then .error .malformed else .ok d
  | none => .error .malformed

def readLevel (text : String) : Except Fault Limit :=
  if text.isEmpty then .ok (some .trace)
  else
    match readLimit text with
    | some limit => .ok limit
    | none => .error .malformed

def Scan.step (text : List Char) (s : Scan) (place : Nat) (c : Char) : Except Fault Scan :=
  match s.stage with
  | .start =>
      if c == '[' then .ok { s with stage := .span (place + 1) }
      else if isStart c then .ok { s with stage := .word place }
      else .error .malformed
  | .word first =>
      if c == '=' then do
        let target ← cut text first (some place)
        .ok { s with stage := .level (place + 1), target := some target }
      else if c == '[' then do
        let target ← cut text first (some place)
        .ok { s with stage := .span (place + 1), target := some target }
      else if c == ',' then .error .malformed
      else .ok s
  | .span first =>
      if c == ']' then do
        let name ← cut text first (some place)
        .ok { s with stage := .behindSpan, span := some name }
      else if c == '\x7b' then do
        let name ← cut text first (some place)
        .ok { s with stage := .field (place + 1), span := if name.isEmpty then none else some name }
      else .ok s
  | .field first =>
      if c == '\x7d' || c == ',' then do
        let written ← cut text first (some place)
        let demand ← readDemand written
        let stage := if c == ',' then Stage.field (place + 1) else .behindFields
        .ok { s with stage, demands := s.demands ++ [demand] }
      else .ok s
  | .behindFields => if c == ']' then .ok { s with stage := .behindSpan } else .error .malformed
  | .behindSpan => if c == '=' then .ok { s with stage := .level (place + 1) } else .error .malformed
  | .level _ => .ok s

def Scan.steps (text : List Char) : Scan → Nat → List Char → Except Fault Scan
  | s, _, [] => .ok s
  | s, place, c :: rest => do
      let next ← s.step text place c
      next.steps text (place + c.utf8Size) rest

def ofWord (word : String) : Directive :=
  match readLimit word with
  | some limit => ⟨none, none, [], limit⟩
  | none => ⟨some word, none, [], some .trace⟩

def Scan.finish (text : List Char) (s : Scan) : Except Fault Directive :=
  match s.stage with
  | .word first => (cut text first none).map ofWord
  | .level first => do
      let written ← cut text first none
      let limit ← readLevel written
      .ok ⟨s.target, s.span, s.demands, limit⟩
  | .behindSpan => .ok ⟨s.target, s.span, s.demands, some .trace⟩
  | _ => .error .malformed

/-- Reads a directive. Where its parts begin and end is found in the text without the blanks around it, but
they are cut out of the whole text, so blanks in front of it shift them. -/
def read (text : String) : Except Fault Directive := do
  let cs := text.toList
  let s ← Scan.steps cs ⟨.start, none, none, []⟩ 0 (trim cs)
  s.finish cs

def coversSource (d : Directive) (source : String) : Bool :=
  match d.target with
  | some target => target.isPrefixOf source
  | none => true

def asksContent (d : Directive) : Bool :=
  d.demands.any (·.content.isSome)

def isDynamic (d : Directive) : Bool :=
  d.span.isSome || !d.demands.isEmpty

def isStatic (d : Directive) : Bool :=
  d.span.isNone && !d.asksContent

def fieldNames (d : Directive) : List String :=
  d.demands.map (·.name)

def coversReport (d : Directive) (r : Record) : Bool :=
  d.coversSource r.target
    && d.fieldNames.all fun name => name == "message" || r.fields.any (·.name == name)

def coversSpan (d : Directive) (span : Record) : Bool :=
  d.coversSource span.target && d.span.all (· == span.message)
    && d.fieldNames.all fun name => span.fields.any (·.name == name)

def contentOf? (d : Directive) (field : String) : Option Content :=
  (d.demands.reverse.filter (·.name == field)).findSome? (·.content)

def isMetBy (d : Directive) (span : Record) : Bool :=
  span.fields.all fun f => (d.contentOf? f.name).all (·.isMetBy f.text)

def targetLength (d : Directive) : Nat :=
  match d.target with
  | some target => target.utf8ByteSize + 1
  | none => 0

def isMoreSpecific (d e : Directive) : Bool :=
  let written (d : Directive) := d.target.toList ++ d.fieldNames
  match compare d.targetLength e.targetLength, compare d.demands.length e.demands.length with
  | .gt, _ => true
  | .lt, _ => false
  | .eq, .gt => true
  | .eq, .lt => false
  | .eq, .eq => decide (written e < written d)

end Directive

end CommandTree.Logging
