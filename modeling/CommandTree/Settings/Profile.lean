import CommandTree.Text.Lowercase

namespace CommandTree

inductive Profile where
  | development
  | production
  | custom (name : String)
  deriving DecidableEq

namespace Profile

def name : Profile → String
  | .development => "development"
  | .production => "production"
  | .custom name => name

def ofName (name : String) : Profile :=
  match String.ofList (Text.lowercase name.toList) with
  | "production" => .production
  | "prod" => .production
  | "development" => .development
  | "dev" => .development
  | other => .custom other

end Profile

end CommandTree
