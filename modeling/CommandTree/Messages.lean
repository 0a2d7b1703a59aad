import CommandTree.Actor

namespace CommandTree

structure Messages where
  noPermission : String
  wrongSender : String
  handlerFailure : String
  hiddenSubcommands : String
  helpHeader : Option String
  deriving DecidableEq

namespace Messages

def standard : Messages where
  noPermission := "You do not have permission to use this command."
  wrongSender := "This command can only be used by the \x7bkind\x7d."
  handlerFailure := "An error occurred while executing this command."
  hiddenSubcommands := "[hidden subcommands]"
  helpHeader := none

/-- Puts `value` for every occurrence of `hole`. `skip` characters of a hole just filled are still to be
passed over. -/
def fillFrom (hole value : List Char) : Nat → List Char → List Char
  | _, [] => []
  | skip + 1, _ :: rest => fillFrom hole value skip rest
  | 0, c :: rest =>
      if hole.isPrefixOf (c :: rest) then value ++ fillFrom hole value (hole.length - 1) rest
      else c :: fillFrom hole value 0 rest

def kindHole : List Char :=
  ['\x7b', 'k', 'i', 'n', 'd', '\x7d']

def wrongSenderFor (m : Messages) (required : SenderKind) : String :=
  String.ofList (fillFrom kindHole required.word.toList 0 m.wrongSender.toList)

end Messages

end CommandTree
