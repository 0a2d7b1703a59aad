import CommandTree.Text.Blank

namespace CommandTree.Definition

open Text

def pending : List Char → List (List Char)
  | [] => []
  | token@(_ :: _) => [token]

/-- The tokens of a header from a point that `depth` open parentheses enclose and where `token` has been
read. Blanks separate tokens outside parentheses only. -/
def splitFrom : Nat → List Char → List Char → Option (List (List Char))
  | 0, token, [] => some (pending token)
  | _ + 1, _, [] => none
  | depth, token, c :: rest =>
      if c = '(' then splitFrom (depth + 1) (token ++ [c]) rest
      else if c = ')' then
        match depth with
        | 0 => none
        | outer + 1 => splitFrom outer (token ++ [c]) rest
      else if isBlank c && depth == 0 then (splitFrom 0 [] rest).map (pending token ++ ·)
      else splitFrom depth (token ++ [c]) rest

def splitHeader (header : List Char) : Option (List (List Char)) :=
  splitFrom 0 [] header

/-- Reads backwards to the parenthesis that opens the group read so far. `depth` groups inside it are
still open, and `inner` is what it contains. The result is the text before the group, and `inner`. -/
def openingFrom : Nat → List Char → List Char → Option (List Char × List Char)
  | _, _, [] => none
  | depth, inner, c :: before =>
      if c = ')' then openingFrom (depth + 1) (c :: inner) before
      else if c = '(' then
        match depth with
        | 0 => some (before.reverse, inner)
        | outer + 1 => openingFrom outer (c :: inner) before
      else openingFrom depth (c :: inner) before

def isParenthesis (c : Char) : Bool :=
  c == '(' || c == ')'

def splitDefault (token : List Char) : Option (List Char × List Char) :=
  match token.reverse with
  | ')' :: before =>
      match openingFrom 0 [] before with
      | some (body, inner) => if body.any isParenthesis then none else some (body, inner)
      | none => none
  | _ => none

end CommandTree.Definition
