import CommandTree.Pattern.Class

/-!
Patterns for texts, and what it means that a text matches. A pattern is followed through a text by keeping
the ways in which it can go on, the most wanted first: once one of them is complete, those behind it are
given up. Whether a text matches is asked at its very end, so a way that was complete before and has no
further character does not count.
-/

namespace CommandTree.Pattern

structure Gap where
  before : Option Char
  after : Option Char

inductive Look where
  | textStart
  | textEnd
  | lineStart (withReturns : Bool)
  | lineEnd (withReturns : Bool)
  | wordEdge
  | noWordEdge
  | wordStart
  | wordEnd
  deriving DecidableEq

namespace Gap

def isWordBefore (g : Gap) : Bool :=
  g.before.any CharClass.wordCharacters.holds

def isWordAfter (g : Gap) : Bool :=
  g.after.any CharClass.wordCharacters.holds

/-- Whether a place is as demanded. Between a carriage return and its line feed no line begins or ends. -/
def meets (g : Gap) : Look → Bool
  | .textStart => g.before.isNone
  | .textEnd => g.after.isNone
  | .lineStart false => g.before.isNone || g.before == some '\n'
  | .lineStart true =>
      g.before.isNone || g.before == some '\n' || (g.before == some '\r' && g.after != some '\n')
  | .lineEnd false => g.after.isNone || g.after == some '\n'
  | .lineEnd true =>
      g.after.isNone || g.after == some '\r' || (g.after == some '\n' && g.before != some '\r')
  | .wordEdge => g.isWordBefore != g.isWordAfter
  | .noWordEdge => g.isWordBefore == g.isWordAfter
  | .wordStart => !g.isWordBefore && g.isWordAfter
  | .wordEnd => g.isWordBefore && !g.isWordAfter

end Gap

inductive Expression where
  | blank
  | one (c : CharClass)
  | look (l : Look)
  | seq (a b : Expression)
  | either (a b : Expression)
  | maybe (isGreedy : Bool) (a : Expression)
  | many (isGreedy : Bool) (a : Expression)
  deriving DecidableEq

inductive Way where
  | complete
  | next (c : CharClass) (rest : Expression)
  deriving DecidableEq

namespace Way

def followedBy (after : Expression) : Way → Way
  | complete => complete
  | next c .blank => next c after
  | next c rest => next c (.seq rest after)

def isComplete : Way → Bool
  | complete => true
  | next _ _ => false

def step? (c : Char) : Way → Option Expression
  | complete => none
  | next wanted rest => if wanted.holds c then some rest else none

end Way

def upToComplete : List Way → List Way
  | [] => []
  | w :: ws => if w.isComplete then [w] else w :: upToComplete ws

namespace Expression

def withEnd (isGreedy : Bool) (rounds : List Way) : List Way :=
  if isGreedy then rounds ++ [.complete] else .complete :: rounds

def ways (g : Gap) : Expression → List Way
  | blank => [.complete]
  | one c => [.next c .blank]
  | look l => if g.meets l then [.complete] else []
  | seq a b =>
      let second := b.ways g
      (a.ways g).eraseDups.flatMap fun w =>
        if w.isComplete then second else [w.followedBy b]
  | either a b => a.ways g ++ b.ways g
  | maybe isGreedy a => withEnd isGreedy (a.ways g)
  | many isGreedy a => withEnd isGreedy ((a.ways g).map (Way.followedBy (many isGreedy a)))

def anywhere (e : Expression) : Expression :=
  seq (many false (one .everything)) e

end Expression

def waysAt (g : Gap) (patterns : List Expression) : List Way :=
  upToComplete ((patterns.flatMap (·.ways g)).eraseDups)

def followThrough : Option Char → List Expression → List Char → Bool
  | before, patterns, [] => (waysAt ⟨before, none⟩ patterns).any (·.isComplete)
  | before, patterns, c :: rest =>
      let left := (waysAt ⟨before, some c⟩ patterns).filterMap (·.step? c)
      followThrough (some c) left rest

def Expression.isMatchedBy (e : Expression) (text : String) : Bool :=
  followThrough none [e.anywhere] text.toList

end CommandTree.Pattern
