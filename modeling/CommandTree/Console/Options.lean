import CommandTree.Text.Blank

namespace CommandTree.Console

open Text

structure Options where
  config : Option String
  commands : String
  player : Option String
  permissions : List String
  players : List String

inductive Usage where
  | run (options : Options)
  | help
  | misuse

inductive OptionName where
  | config
  | commands
  | player
  | permission
  | players
  deriving DecidableEq

namespace OptionName

def ofLong? : List Char → Option OptionName
  | cs =>
      match String.ofList cs with
      | "config" => some .config
      | "commands" => some .commands
      | "as" => some .player
      | "permission" => some .permission
      | "players" => some .players
      | _ => none

def ofShort? : Char → Option OptionName
  | 'c' => some .config
  | 'p' => some .permission
  | _ => none

def isRepeatable : OptionName → Bool
  | .permission => true
  | .players => true
  | _ => false

def isPath : OptionName → Bool
  | .config => true
  | .commands => true
  | _ => false

end OptionName

abbrev Given := List (OptionName × String)

def give (given : Given) (name : OptionName) (value : String) : Option Given :=
  if name.isPath && value.isEmpty then none
  else if !name.isRepeatable && given.any (·.1 == name) then none
  else some (given ++ [(name, value)])

inductive Token where
  | help
  | option (name : OptionName) (value : Option String)
  | value (text : String)
  | unknown

def longToken (body : List Char) : Token :=
  let (name, value) :=
    match cutAt? (· == '=') body with
    | some (name, value) => (name, some (String.ofList value))
    | none => (body, none)
  if name == "help".toList then (if value.isSome then .unknown else .help)
  else
    match OptionName.ofLong? name with
    | some name => .option name value
    | none => .unknown

def shortToken (letter : Char) (rest : List Char) : Token :=
  if letter = 'h' then .help
  else
    match OptionName.ofShort? letter, rest with
    | some name, [] => .option name none
    | some name, '=' :: value => .option name (some (String.ofList value))
    | some name, value => .option name (some (String.ofList value))
    | none, _ => .unknown

def Token.read (text : String) : Token :=
  match text.toList with
  | '-' :: '-' :: body => longToken body
  | '-' :: letter :: rest => shortToken letter rest
  | _ => .value text

def commaParts (text : String) : List String :=
  (pieces (· == ',') text.toList).map String.ofList

def valuesOf (given : Given) (name : OptionName) : List String :=
  (given.filter (·.1 == name)).map (·.2)

def optionsOf (given : Given) : Options where
  config := (valuesOf given .config).head?
  commands := (valuesOf given .commands).head?.getD "demos/console/commands.txt"
  player := (valuesOf given .player).head?
  permissions := (valuesOf given .permission).flatMap commaParts
  players :=
    let players := valuesOf given .players
    (if players.isEmpty then ["Steve,Alex"] else players).flatMap commaParts

def readFrom : Given → List String → Usage
  | given, [] => .run (optionsOf given)
  | given, "--" :: rest => if rest.isEmpty then .run (optionsOf given) else .misuse
  | given, text :: rest =>
      match Token.read text with
      | .help => .help
      | .value _ => .misuse
      | .unknown => .misuse
      | .option name (some value) =>
          match give given name value with
          | some given => readFrom given rest
          | none => .misuse
      | .option name none =>
          match rest with
          | next :: rest =>
              match Token.read next with
              | .value value =>
                  match give given name value with
                  | some given => readFrom given rest
                  | none => .misuse
              | _ => .misuse
          | [] => .misuse

def readOptions (arguments : List String) : Usage :=
  readFrom [] arguments

def helpText : String :=
  "\n".intercalate
    ["Interactive Quill command console",
      "",
      "Usage: quill-console [OPTIONS]",
      "",
      "Options:",
      "  -c, --config <CONFIG>          Configuration file (TOML or YAML)",
      "      --commands <COMMANDS>      Command definition file, loaded after any configured ones [default: demos/console/commands.txt]",
      "      --as <PLAYER>              Start as this player instead of the console",
      "  -p, --permission <PERMISSION>  Permissions held by players",
      "      --players <PLAYERS>        Players that are online [default: Steve,Alex]",
      "  -h, --help                     Print help",
      ""]

def misuseText : String :=
  "\n".intercalate
    ["error: the arguments do not fit",
      "",
      "Usage: quill-console [OPTIONS]",
      "",
      "For more information, try '--help'.",
      ""]

end CommandTree.Console
