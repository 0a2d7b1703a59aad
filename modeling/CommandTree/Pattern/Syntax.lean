import CommandTree.Pattern.Bracket
import CommandTree.Text.Alphabetic
import CommandTree.Text.Numeric

namespace CommandTree.Pattern

open Text

inductive Opening where
  | change (f : Flags)
  | group (f : Flags) (name : Option String)

def isNameStart (c : Char) : Bool :=
  c == '_' || isAlphabetic c

def isNameChar (c : Char) : Bool :=
  isNameStart c || isNumeric c || c == '.' || c == '[' || c == ']'

def groupName : Reader String := fun cs =>
  match cutAt? (· == '>') cs with
  | some (c :: name, rest) =>
      if isNameStart c && name.all isNameChar then some (String.ofList (c :: name), rest) else none
  | _ => none

def opening (f : Flags) : Reader Opening := fun cs =>
  match f.skip cs with
  | '?' :: 'P' :: '<' :: rest =>
      (groupName rest).map fun (name, rest) => (.group f (some name), rest)
  | '?' :: '<' :: rest => (groupName rest).map fun (name, rest) => (.group f (some name), rest)
  | '?' :: rest =>
      let isEnd (c : Char) := c == ':' || c == ')'
      let marks := rest.takeWhile (!isEnd ·)
      if !Flags.isList marks then none
      else
        match rest.dropWhile (!isEnd ·) with
        | ':' :: rest => some (.group (f.change marks) none, rest)
        | ')' :: rest => if marks.isEmpty then none else some (.change (f.change marks), rest)
        | _ => none
  | rest => some (.group f none, rest)

def literal (f : Flags) (c : Char) : Option Expression :=
  (f.folded (.single c)).map .one

def atom (f : Flags) : Reader Expression
  | [] => none
  | '\\' :: rest => do
      let (meant, rest) ← escaped f rest
      match meant with
      | .literal c => (literal f c).map (·, rest)
      | .members c => some (.one c, rest)
      | .look l => some (.look l, rest)
  | '.' :: rest => f.dot.map fun c => (.one c, rest)
  | '^' :: rest => some (.look f.lineStart, rest)
  | '$' :: rest => some (.look f.lineEnd, rest)
  | c :: rest => (literal f c).map (·, rest)

def repetition? (isGreedy : Bool) (e : Expression) : Char → Option Expression
  | '?' => some (.maybe isGreedy e)
  | '*' => some (.many isGreedy e)
  | '+' => some (.seq e (.many isGreedy e))
  | _ => none

def isRepetition (c : Char) : Bool :=
  c == '?' || c == '*' || c == '+'

/-- The parts of a branch, the last one first. A change of flags is a part that matches nothing and cannot
be repeated. -/
abbrev Branch := List (Option Expression)

def Branch.toExpression (b : Branch) : Expression :=
  (b.filterMap id).foldl (fun after e => if after = .blank then e else .seq e after) .blank

/-- The branches of a group, up to the parenthesis that closes it or the end of the text. The flags that one
branch sets hold in the next ones. `names` are the names of groups so far, of which none is given twice, and
`branch` is what has been read of the first branch. -/
def branches : Nat → Flags → List String → Branch → Reader (Expression × List String)
  | 0, _, _, _, _ => none
  | fuel + 1, f, names, branch, cs =>
      match f.skip cs with
      | [] => some ((branch.toExpression, names), [])
      | ')' :: rest => some ((branch.toExpression, names), ')' :: rest)
      | '|' :: rest => do
          let ((others, names), rest) ← branches fuel f names [] rest
          some ((.either branch.toExpression others, names), rest)
      | '(' :: rest => do
          let (opened, rest) ← opening f rest
          match opened with
          | .change f => branches fuel f names (none :: branch) rest
          | .group inner name =>
              if name.any names.contains then none
              else
                let ((e, names), rest) ← branches fuel inner (name.toList ++ names) [] rest
                match rest with
                | ')' :: rest => branches fuel f names (some e :: branch) rest
                | _ => none
      | '[' :: rest => do
          let (c, rest) ← bracketed f rest
          branches fuel f names (some (.one c) :: branch) rest
      | '\x7b' :: _ => none
      | c :: rest =>
          if isRepetition c then
            match branch with
            | some e :: before =>
                let (isGreedy, rest) :=
                  match rest with
                  | '?' :: rest => (f.swapsGreed, rest)
                  | rest => (!f.swapsGreed, rest)
                match repetition? isGreedy e c with
                | some repeated => branches fuel f names (some repeated :: before) rest
                | none => none
            | _ => none
          else do
            let (e, rest) ← atom f (c :: rest)
            branches fuel f names (some e :: branch) rest

def read? (text : String) : Option Expression :=
  let cs := text.toList
  match branches (cs.length + 1) .standard [] [] cs with
  | some ((e, _), []) => some e
  | _ => none

end CommandTree.Pattern
