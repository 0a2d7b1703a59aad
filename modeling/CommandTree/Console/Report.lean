import CommandTree.Manager
import CommandTree.Settings.Loading
import CommandTree.Text.Blank

namespace CommandTree.Console

open Text

structure Failure where
  message : String
  causes : List String

namespace Failure

def during (undertaking : String) (f : Failure) : Failure :=
  ⟨undertaking, f.message :: f.causes⟩

def ofLoadError (e : Settings.LoadError) : Failure :=
  ⟨e.message, []⟩

def ofManagerError (e : ManagerError) : Failure :=
  ⟨e.message, [e.source]⟩

def numberColumn (n : Nat) : String :=
  let digits := toString n
  String.ofList (List.replicate (5 - digits.length) ' ') ++ digits ++ ": "

def causeText (start : String) (cause : String) : String :=
  let margin := "\n" ++ String.ofList (List.replicate start.length ' ')
  start ++ margin.intercalate ((pieces (· == '\n') cause.toList).map String.ofList)

def causeTexts : List String → List String
  | [] => []
  | [cause] => [causeText "    " cause]
  | causes => causes.zipIdx.map fun (cause, n) => causeText (numberColumn n) cause

def report (f : Failure) : String :=
  let head := "Error: " ++ f.message
  if f.causes.isEmpty then head
  else "\n".intercalate (head :: "" :: "Caused by:" :: causeTexts f.causes)

end Failure

end CommandTree.Console
