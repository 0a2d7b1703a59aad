import CommandTree.Number.Shortest
import CommandTree.Text.Quoted

namespace CommandTree

open Number

inductive Payload where
  | text (text : String)
  | byte (byte : UInt8)
  deriving DecidableEq

/-- An application value. It is the same as another only if both have one identity. -/
structure Custom where
  identity : Nat
  payload : Payload
  deriving DecidableEq

inductive Value where
  | int (n : Int32)
  | long (n : Int64)
  | double (x : Double)
  | boolean (b : Bool)
  | string (s : String)
  | custom (c : Custom)
  deriving DecidableEq

namespace Value

def label : Value → String
  | .int _ => "int"
  | .long _ => "long"
  | .double _ => "double"
  | .boolean _ => "boolean"
  | .string _ => "string"
  | .custom _ => "custom"

def asInt? : Value → Option Int32
  | .int n => some n
  | _ => none

def asLong? : Value → Option Int64
  | .int n => some n.toInt64
  | .long n => some n
  | _ => none

def asDouble? : Value → Option Double
  | .double x => some x
  | _ => none

def asBoolean? : Value → Option Bool
  | .boolean b => some b
  | _ => none

def asString? : Value → Option String
  | .string s => some s
  | _ => none

def asCustomText? : Value → Option String
  | .custom ⟨_, .text s⟩ => some s
  | _ => none

def same : Value → Value → Bool
  | .int a, .int b => a == b
  | .long a, .long b => a == b
  | .double a, .double b => a.same b
  | .boolean a, .boolean b => a == b
  | .string a, .string b => a == b
  | .custom a, .custom b => a.identity == b.identity
  | _, _ => false

end Value

inductive SlotError where
  | missing
  | mismatch (expected got : String)
  deriving DecidableEq

def SlotError.message : SlotError → String
  | .missing => "missing value"
  | .mismatch expected got => "type mismatch: expected " ++ expected ++ ", got " ++ got

inductive ParameterKind where
  | int
  | long
  | double
  | boolean
  | string
  | customText
  | any
  deriving DecidableEq

namespace ParameterKind

def expected : ParameterKind → String
  | .int => "int"
  | .long => "long"
  | .double => "double"
  | .boolean => "boolean"
  | .string => "string"
  | .customText => "alloc::string::String"
  | .any => "value"

def view? : ParameterKind → Value → Option Value
  | .int, v => v.asInt?.map .int
  | .long, v => v.asLong?.map .long
  | .double, v => v.asDouble?.map .double
  | .boolean, v => v.asBoolean?.map .boolean
  | .string, v => v.asString?.map .string
  | .customText, v => if v.asCustomText?.isSome then some v else none
  | .any, v => some v

end ParameterKind

structure Parameter where
  kind : ParameterKind
  isOptional : Bool
  deriving DecidableEq

def Parameter.take (p : Parameter) : Option Value → Except SlotError (Option Value)
  | none => if p.isOptional then .ok none else .error .missing
  | some v =>
      match p.kind.view? v with
      | some seen => .ok (some seen)
      | none => .error (.mismatch p.kind.expected v.label)

end CommandTree
