import CommandTree.Event.Record
import CommandTree.Number.Double
import CommandTree.Pattern.Syntax
import CommandTree.Text.Blank

namespace CommandTree.Logging

open Text

/-- The content that a field has to hold, and how it is written: a text that matches a pattern, or without
a pattern a truth value or a number, which no text is. -/
structure Content where
  written : String
  pattern : Option Pattern.Expression
  deriving DecidableEq

def isFigure (text : String) : Bool :=
  text == "true" || text == "false" || (Number.Double.read text).isSome

def Content.read (text : String) : Option Content :=
  if isFigure text then some ⟨text, none⟩
  else (Pattern.read? text).map fun e => ⟨text, some e⟩

def Content.isMetBy (c : Content) (text : String) : Bool :=
  c.pattern.any (·.isMatchedBy text)

structure Demand where
  name : String
  content : Option Content
  deriving DecidableEq

def Demand.read (text : String) : Option Demand :=
  match pieces (· == '=') text.toList with
  | name :: content :: _ =>
      (Content.read (String.ofList content)).map fun c => ⟨String.ofList name, some c⟩
  | _ => some ⟨text, none⟩

end CommandTree.Logging
