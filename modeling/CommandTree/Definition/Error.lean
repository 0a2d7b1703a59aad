
namespace CommandTree

inductive DefinitionCause where
  | unknownType (name : String)
  | malformedArgument (token : String)
  | unbalancedParenthesis (text : String)
  | invalidDefault (value type : String)
  | unknownProvider (name : String)
  | variadicNotLast (argument : String)
  | decoratedFlag (flag : String)
  | missingName
  | missingValue (tag : String)
  | unknownTag (tag : String)
  | unknownSenderKind (word : String)
  | unexpectedClose
  | unclosedBlock
  | missingBlock
  | outsideBlock (text : String)
  deriving DecidableEq

def DefinitionCause.message : DefinitionCause → String
  | .unknownType name => "unknown argument type '" ++ name ++ "'"
  | .malformedArgument token => "malformed argument '" ++ token ++ "'"
  | .unbalancedParenthesis text => "unbalanced parenthesis in '" ++ text ++ "'"
  | .invalidDefault value type => "default value '" ++ value ++ "' is not a valid " ++ type
  | .unknownProvider name => "unknown context provider '" ++ name ++ "'"
  | .variadicNotLast argument => "variadic argument '" ++ argument ++ "' must be the last argument"
  | .decoratedFlag flag => "flag '" ++ flag ++ "' cannot be marked optional or variadic"
  | .missingName => "command block has no name"
  | .missingValue tag => "tag '" ++ tag ++ "' requires a value"
  | .unknownTag tag => "unknown tag '" ++ tag ++ "'"
  | .unknownSenderKind word => "unknown sender kind '" ++ word ++ "'"
  | .unexpectedClose => "unexpected '\x7d'"
  | .unclosedBlock => "block opened here is never closed"
  | .missingBlock => "expected a command block, found end of input"
  | .outsideBlock text => "expected a command block, found '" ++ text ++ "'"

structure DefinitionError where
  line : Nat
  cause : DefinitionCause
  deriving DecidableEq

def DefinitionError.message (e : DefinitionError) : String :=
  "line " ++ toString e.line ++ ": " ++ e.cause.message

end CommandTree
