import CommandTree.Registry

namespace CommandTree.Recipe

inductive Conversion where
  | any
  | nonEmpty
  | capital
  | spelling (spellings : List String)
  | self
  | custom
  | standard (type : String)
  | panics
  | never

inductive Suggestion where
  | listed (candidates : List String)
  | actorName
  | panics

def startsWithCapital (token : String) : Bool :=
  match token.toList with
  | c :: _ => 'A' ≤ c && c ≤ 'Z'
  | [] => false

def stringIf (condition : Bool) (text : String) : Attempt (Option Value) :=
  .returned (if condition then some (.string text) else none)

def Conversion.convert : Conversion → Option Actor → String → Attempt (Option Value)
  | .any, _, token => .returned (some (.string token))
  | .nonEmpty, _, token => stringIf (!token.isEmpty) token
  | .capital, _, token => stringIf (startsWithCapital token) token
  | .spelling spellings, _, token =>
      .returned ((spellings.find? (Text.sameIgnoringCase · token)).map .string)
  | .self, some actor, token => stringIf (token == "me") actor.name
  | .self, none, _ => .returned none
  | .custom, _, token => .returned (some (.custom ⟨0, .text token⟩))
  | .standard type, actor, token =>
      match TypeTable.standard.get? type with
      | some t => t.converter actor token
      | none => .returned none
  | .panics, _, _ => .panicked
  | .never, _, _ => .returned none

def Suggestion.supply : Suggestion → Actor → Attempt (List String)
  | .listed candidates, _ => .returned candidates
  | .actorName, actor => .returned [actor.name]
  | .panics, _ => .panicked

def type (name : String) (conversion : Conversion) (suggestion : Option Suggestion) : ArgumentType :=
  ⟨name, conversion.convert, suggestion.map Suggestion.supply⟩

end CommandTree.Recipe
