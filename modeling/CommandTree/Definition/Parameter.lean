import CommandTree.Argument
import CommandTree.Definition.Error
import CommandTree.Definition.Parenthesis

/-!
The parameter tokens of a header: `type:name` with marks behind it. A star hides the type, a question
mark makes the argument optional, three dots make it variadic, and parentheses give a default, which
implies optional. A bare type names the argument too. A name that begins with a dash declares a flag.
-/

namespace CommandTree.Definition

open Text

inductive Declaration where
  | argument (a : Argument)
  | flag (f : Flag)

structure Marked where
  body : List Char
  default : Option (List Char)
  isVariadic : Bool
  hidesType : Bool
  isOptional : Bool
  deriving DecidableEq

def endsWithParenthesis (body : List Char) : Bool :=
  body.getLast? == some ')'

def takeDefault (body : List Char) : Except DefinitionCause (List Char × Option (List Char)) :=
  if endsWithParenthesis body then
    match splitDefault body with
    | some (rest, inner) => .ok (rest, some inner)
    | none => .error (.unbalancedParenthesis (String.ofList body))
  else .ok (body, none)

def takeDots (body : List Char) : List Char × Bool :=
  match dropEnd? ['.', '.', '.'] body with
  | some rest => (rest, true)
  | none => (body, false)

/-- Takes the star and the question mark, in either order, off the end of the body. The result says
whether each was there. -/
def takeMarks (body : List Char) : List Char × Bool × Bool :=
  match body.reverse with
  | '?' :: '*' :: rest => (rest.reverse, true, true)
  | '*' :: '?' :: rest => (rest.reverse, true, true)
  | '*' :: rest => (rest.reverse, true, false)
  | '?' :: rest => (rest.reverse, false, true)
  | _ => (body, false, false)

/-- Takes a token apart. A default stands behind the dots or between them and the name. -/
def Marked.read (token : List Char) : Except DefinitionCause Marked :=
  match takeDefault token with
  | .error cause => .error cause
  | .ok (body, outer) =>
      let (body, isVariadic) := takeDots body
      let (body, hidesType, isOptional) := takeMarks body
      match outer with
      | some inner => .ok ⟨body, some inner, isVariadic, hidesType, isOptional⟩
      | none =>
          match takeDefault body with
          | .error cause => .error cause
          | .ok (body, inner) => .ok ⟨body, inner, isVariadic, hidesType, isOptional⟩

/-- The type and the name in the body of a token: the parts around the first colon. Without a colon a flag
is boolean, and anything else is a type that is also the name. -/
def typeAndName (body : List Char) : List Char × List Char :=
  match cutAt? (· == ':') body with
  | some parts => parts
  | none =>
      match body with
      | '-' :: _ => ("boolean".toList, body)
      | _ => (body, body)

def isFlagName (name : List Char) : Bool :=
  match name with
  | '-' :: _ => true
  | _ => false

def isFullFlagName (name : List Char) : Bool :=
  match name with
  | '-' :: _ :: _ => true
  | _ => false

def findProvider (r : Registries) (name : List Char) : Except DefinitionCause Provider :=
  match r.providers.get? (String.ofList name) with
  | some provider => .ok provider
  | none => .error (.unknownProvider (String.ofList name))

/-- Reads a default: the name of a provider behind the word `context`, or else a literal, which is
converted here and without an actor. -/
def readDefault (r : Registries) (type : ArgumentType) (text : List Char) :
    Logged (Except DefinitionCause Default) :=
  match dropStart? "context ".toList text with
  | some name => pure ((findProvider r (trim name)).map .context)
  | none => do
      match ← type.convert none (String.ofList text) with
      | some value => pure (.ok (.literal value))
      | none => pure (.error (.invalidDefault (String.ofList text) type.name))

def readDefault? (r : Registries) (type : ArgumentType) :
    Option (List Char) → Logged (Except DefinitionCause (Option Default))
  | none => pure (.ok none)
  | some text => do
      let default ← readDefault r type text
      pure (default.map some)

/-- The declaration of a flag whose names stand between commas. Its position is given later. -/
def declareFlag (token name : List Char) (m : Marked) (type : ArgumentType) (hidesType : Bool)
    (default : Option Default) : Except DefinitionCause Declaration :=
  if m.isOptional || m.isVariadic then .error (.decoratedFlag (String.ofList name))
  else
    match pieces (· == ',') name with
    | first :: others =>
        if (first :: others).all isFullFlagName then
          .ok (.flag ⟨type, String.ofList first, others.map String.ofList, 0, hidesType, default⟩)
        else .error (.malformedArgument (String.ofList token))
    | [] => .error (.malformedArgument (String.ofList token))

def declareArgument (token name : List Char) (m : Marked) (type : ArgumentType) (hidesType : Bool)
    (default : Option Default) : Except DefinitionCause Declaration :=
  if name.contains ',' then .error (.malformedArgument (String.ofList token))
  else
    .ok (.argument
      ⟨type, String.ofList name, 0, m.isOptional || default.isSome, m.isVariadic, hidesType, default⟩)

def readParameter (r : Registries) (token : List Char) : Logged (Except DefinitionCause Declaration) :=
  match Marked.read token with
  | .error cause => pure (.error cause)
  | .ok m =>
      let (typeName, name) := typeAndName m.body
      if typeName.isEmpty || name.isEmpty || name.contains ':' then
        pure (.error (.malformedArgument (String.ofList token)))
      else
        match r.types.get? (String.ofList typeName) with
        | none => pure (.error (.unknownType (String.ofList typeName)))
        | some type => do
            match ← readDefault? r type m.default with
            | .error cause => pure (.error cause)
            | .ok default =>
                let hidesType := m.hidesType || name == typeName
                if isFlagName name then pure (declareFlag token name m type hidesType default)
                else pure (declareArgument token name m type hidesType default)

end CommandTree.Definition
