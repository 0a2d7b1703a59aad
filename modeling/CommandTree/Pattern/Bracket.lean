import CommandTree.Pattern.Escape

namespace CommandTree.Pattern

open Text

inductive Member where
  | character (c : Char)
  | members (c : CharClass)

def Member.toClass : Member → CharClass
  | character c => .single c
  | members c => c

def member (f : Flags) (c : Char) : Option Member :=
  if f.isUnicode || c.toNat < 0x80 then some (.character c) else none

def bracketMember (f : Flags) : Reader Member
  | [] => none
  | '\\' :: rest => do
      let (meant, rest) ← escaped f rest
      match meant with
      | .literal c => (member f c).map (·, rest)
      | .members c => some (.members c, rest)
      | .look _ => none
  | c :: rest => (member f c).map (·, rest)

def rangeOf : Member → Member → Option CharClass
  | .character low, .character high => if low ≤ high then some (.range low high) else none
  | _, _ => none

/-- A member or a range. A dash before the closing bracket or before another dash makes no range. -/
def memberOrRange (f : Flags) : Reader CharClass := fun cs => do
  let (first, rest) ← bracketMember f cs
  let rest := f.skip rest
  match rest with
  | '-' :: after =>
      match f.skip after with
      | ']' :: _ => some (first.toClass, rest)
      | '-' :: _ => some (first.toClass, rest)
      | after => do
          let (last, rest) ← bracketMember f after
          let c ← rangeOf first last
          some (c, rest)
  | rest => some (first.toClass, rest)

def namedClass : Reader (Bool × CharClass)
  | ':' :: cs =>
      let (isComplement, cs) :=
        match cs with
        | '^' :: rest => (true, rest)
        | cs => (false, cs)
      match cutAt? (· == ':') cs with
      | some (name, ']' :: rest) =>
          (CharClass.named? (String.ofList name)).map fun c => ((isComplement, c), rest)
      | _ => none
  | _ => none

def finished (f : Flags) (isComplement : Bool) (c : CharClass) : Option CharClass := do
  let c ← f.folded c
  if isComplement then f.complement c else some c

inductive Operation where
  | intersection
  | difference
  | symmetricDifference

def Operation.apply : Operation → CharClass → CharClass → CharClass
  | .intersection => .intersection
  | .difference => .difference
  | .symmetricDifference => .symmetricDifference

structure Pending where
  operation : Operation
  left : CharClass

def joined (f : Flags) (pending : Option Pending) (right : CharClass) : Option CharClass :=
  match pending with
  | none => some right
  | some p => do
      let left ← f.folded p.left
      let right ← f.folded right
      some (p.operation.apply left right)

def leadingDashes (f : Flags) : Nat → List Char → Bool × List Char
  | 0, cs => (false, cs)
  | fuel + 1, cs =>
      match f.skip cs with
      | '-' :: rest => (true, (leadingDashes f fuel rest).2)
      | cs => (false, cs)

/-- How a class begins: whether it is a complement, and its first members. A closing bracket in front of all
others stands for itself. The opening bracket has been read. -/
def classStart (f : Flags) (cs : List Char) : (Bool × CharClass) × List Char :=
  let (isComplement, cs) :=
    match f.skip cs with
    | '^' :: rest => (true, rest)
    | cs => (false, cs)
  match leadingDashes f (cs.length + 1) cs with
  | (true, cs) => ((isComplement, .single '-'), cs)
  | (false, ']' :: cs) => ((isComplement, .single ']'), cs)
  | (false, cs) => ((isComplement, .nothing), cs)

/-- The members up to the closing bracket. `here` holds those read since the last operation; the number
bounds the steps of reading. -/
def bracketContent (f : Flags) : Nat → Option Pending → CharClass → Reader CharClass
  | 0, _, _, _ => none
  | fuel + 1, pending, here, cs =>
      match f.skip cs with
      | [] => none
      | '[' :: rest =>
          match namedClass rest with
          | some ((isComplement, c), rest) => do
              let c ← finished f isComplement c
              bracketContent f fuel pending (.union here c) rest
          | none => do
              let ((isComplement, start), rest) := classStart f rest
              let (inside, rest) ← bracketContent f fuel none start rest
              let c ← finished f isComplement inside
              bracketContent f fuel pending (.union here c) rest
      | ']' :: rest => (joined f pending here).map (·, rest)
      | '&' :: '&' :: rest => do
          let left ← joined f pending here
          bracketContent f fuel (some ⟨.intersection, left⟩) .nothing rest
      | '-' :: '-' :: rest => do
          let left ← joined f pending here
          bracketContent f fuel (some ⟨.difference, left⟩) .nothing rest
      | '~' :: '~' :: rest => do
          let left ← joined f pending here
          bracketContent f fuel (some ⟨.symmetricDifference, left⟩) .nothing rest
      | cs => do
          let (c, rest) ← memberOrRange f cs
          bracketContent f fuel pending (.union here c) rest

def bracketed (f : Flags) : Reader CharClass := fun cs => do
  let ((isComplement, start), rest) := classStart f cs
  let (inside, rest) ← bracketContent f (rest.length + 1) none start rest
  let c ← finished f isComplement inside
  some (c, rest)

end CommandTree.Pattern
