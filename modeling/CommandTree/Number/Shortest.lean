import CommandTree.Number.Double

/-!
The decimal text of a double: the fewest digits that read back as the same double, and of those the ones
nearest to it. Texts are positional from one ten-thousandth up to 10^16 and scientific elsewhere.
-/

namespace CommandTree.Number.Double

/-- The positive real `significand * 2 ^ exponent`, with the gap below it as wide as the gap above it
or half as wide. -/
structure Magnitude where
  significand : Nat
  exponent : Int
  narrowBelow : Bool

def magnitude (x : Double) : Magnitude :=
  match x.exponentField with
  | 0 => ⟨x.fractionField, -1074, false⟩
  | e + 1 => ⟨Nat.pow 2 52 + x.fractionField, (e : Int) - 1074, x.fractionField == 0 && e != 0⟩

/-- Whether `digits * 10 ^ place` reads back as the magnitude. In quarters of its last bit the magnitude
is `4 * significand`, and everything within two quarters of it rounds to it (within one below, where the
gap is half as wide); the ends do so when the significand is even. -/
def readsBack (m : Magnitude) (digits : Nat) (place : Int) : Bool :=
  let twos := m.exponent - 2
  let left := digits * Nat.pow 10 place.toNat * Nat.pow 2 (-twos).toNat
  let unit := Nat.pow 10 (-place).toNat * Nat.pow 2 twos.toNat
  let low := (4 * m.significand - (if m.narrowBelow then 1 else 2)) * unit
  let high := (4 * m.significand + 2) * unit
  if m.significand % 2 == 0 then low ≤ left && left ≤ high else low < left && left < high

def scaledDown (m : Magnitude) (place : Int) : Nat × Nat :=
  (m.significand * Nat.pow 2 m.exponent.toNat * Nat.pow 10 (-place).toNat,
    Nat.pow 2 (-m.exponent).toNat * Nat.pow 10 place.toNat)

def leadingPlace (m : Magnitude) : Int :=
  let (num, den) := scaledDown m 0
  if den ≤ num then (decimalLength (num / den) : Int) - 1
  else -(decimalLength ((den - 1) / num) : Int)

/-- The multiple of `10 ^ place` next to the magnitude that reads back. If both do it is the nearer one,
and of two equally near ones the one above. -/
def onGrid? (m : Magnitude) (place : Int) : Option Nat :=
  let (num, den) := scaledDown m place
  let below := num / den
  match readsBack m below place, readsBack m (below + 1) place with
  | true, true => some (if 2 * (num % den) < den then below else below + 1)
  | true, false => some below
  | false, true => some (below + 1)
  | false, false => none

def firstGrid (m : Magnitude) : Nat → Int → Nat × Int
  | 0, place => (((onGrid? m place).getD 0), place)
  | more + 1, place =>
      match onGrid? m place with
      | some digits => (digits, place)
      | none => firstGrid m more (place - 1)

def dropZeros (digits : Nat) (place : Int) : Nat × Int :=
  if h : digits ≠ 0 ∧ digits % 10 = 0 then dropZeros (digits / 10) (place + 1) else (digits, place)
termination_by digits
decreasing_by exact Nat.div_lt_self (Nat.pos_of_ne_zero h.1) (by decide)

def shortest (x : Double) : Nat × Int :=
  let (digits, place) := firstGrid x.magnitude 16 (leadingPlace x.magnitude)
  dropZeros digits place

def positional (digits : List Char) (point : Int) : List Char :=
  if point ≤ 0 then ['0', '.'] ++ List.replicate (-point).toNat '0' ++ digits
  else if digits.length ≤ point.toNat then
    digits ++ List.replicate (point.toNat - digits.length) '0' ++ ['.', '0']
  else digits.take point.toNat ++ ['.'] ++ digits.drop point.toNat

def scientific (digits : List Char) (exponent : Int) : List Char :=
  digits.take 1 ++ (if digits.length ≤ 1 then [] else '.' :: digits.drop 1) ++ ['e']
    ++ (toString exponent).toList

def unsignedText (x : Double) : List Char :=
  if x.isZero then ['0', '.', '0']
  else
    let (number, place) := shortest x
    let digits := Nat.toDigits 10 number
    let point := digits.length + place
    if -4 < point && point ≤ 16 then positional digits point
    else scientific digits (point - 1)

def text (x : Double) : String :=
  if x.isNaN then "NaN"
  else
    let unsigned := if x.isFinite then unsignedText x else ['i', 'n', 'f']
    String.ofList (if x.isNegative then '-' :: unsigned else unsigned)

end CommandTree.Number.Double
