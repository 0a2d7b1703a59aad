
namespace CommandTree.Text

/-- The list alternates: the first number begins the set, the second is the first one past it, and so on. -/
def withinBoundaries (boundaries : List Nat) (c : Char) : Bool :=
  (boundaries.takeWhile (· ≤ c.toNat)).length % 2 == 1

end CommandTree.Text
