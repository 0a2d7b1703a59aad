import CommandTree.Number.Signed

namespace CommandTree.Number

structure Double where
  bits : UInt64
  deriving DecidableEq

namespace Double

def isNegative (x : Double) : Bool :=
  x.bits.toNat ≥ Nat.pow 2 63

def exponentField (x : Double) : Nat :=
  x.bits.toNat / Nat.pow 2 52 % Nat.pow 2 11

def fractionField (x : Double) : Nat :=
  x.bits.toNat % Nat.pow 2 52

def isFinite (x : Double) : Bool :=
  x.exponentField != 2047

def isNaN (x : Double) : Bool :=
  x.exponentField == 2047 && x.fractionField != 0

def isZero (x : Double) : Bool :=
  x.exponentField == 0 && x.fractionField == 0

/-- Numeric equality: both zeros are equal, and a value that is no number equals nothing. -/
def same (x y : Double) : Bool :=
  !x.isNaN && !y.isNaN && (x.bits == y.bits || (x.isZero && y.isZero))

def zero : Double := ⟨0⟩

def infinity : Double := ⟨0x7ff0000000000000⟩

def nan : Double := ⟨0x7ff8000000000000⟩

def negate (x : Double) : Double :=
  ⟨x.bits ^^^ 0x8000000000000000⟩

def roundQuotient (num den : Nat) : Nat :=
  let quotient := num / den
  let rest := num % den
  if den < 2 * rest || (den == 2 * rest && quotient % 2 == 1) then quotient + 1 else quotient

def roundScaled (num den : Nat) (exponent : Int) : Nat :=
  if 0 ≤ exponent then roundQuotient num (den * Nat.pow 2 exponent.toNat)
  else roundQuotient (num * Nat.pow 2 (-exponent).toNat) den

def lastBitExponent (num den : Nat) : Int :=
  let estimate : Int := (Nat.log2 num : Int) - (Nat.log2 den : Int)
  let below :=
    if 0 ≤ estimate then num < den * Nat.pow 2 estimate.toNat
    else num * Nat.pow 2 (-estimate).toNat < den
  max (if below then estimate - 53 else estimate - 52) (-1074)

def ofQuotient (num den : Nat) : Double :=
  let exponent := lastBitExponent num den
  let significand := roundScaled num den exponent
  let encoded := (exponent + 1074).toNat * Nat.pow 2 52 + significand
  if encoded < 0x7ff0000000000000 then ⟨UInt64.ofNat encoded⟩ else infinity

def decimalLength (n : Nat) : Nat :=
  if h : n = 0 then 0 else decimalLength (n / 10) + 1
decreasing_by exact Nat.div_lt_self (Nat.pos_of_ne_zero h) (by decide)

def ofDecimal (digits : Nat) (exponent : Int) : Double :=
  let magnitude := (decimalLength digits : Int) + exponent
  if digits = 0 || magnitude < -330 then zero
  else if 310 < magnitude then infinity
  else if 0 ≤ exponent then ofQuotient (digits * Nat.pow 10 exponent.toNat) 1
  else ofQuotient digits (Nat.pow 10 (-exponent).toNat)

def spanDigits (cs : List Char) : List Char × List Char :=
  (cs.takeWhile Char.isDigit, cs.dropWhile Char.isDigit)

def readExponent : List Char → Option Int
  | [] => some 0
  | c :: rest => if c = 'e' || c = 'E' then readInteger rest else none

def readUnsigned (cs : List Char) : Option Double :=
  let (whole, afterWhole) := spanDigits cs
  let (fraction, afterFraction) :=
    match afterWhole with
    | '.' :: rest => spanDigits rest
    | rest => ([], rest)
  match readNatural (whole ++ fraction), readExponent afterFraction with
  | some digits, some exponent => some (ofDecimal digits (exponent - fraction.length))
  | _, _ => none

def readWord (cs : List Char) : Option Double :=
  match String.ofList (cs.map Char.toLower) with
  | "inf" => some infinity
  | "infinity" => some infinity
  | "nan" => some nan
  | _ => none

def readMagnitude (cs : List Char) : Option Double :=
  match readWord cs with
  | some x => some x
  | none => readUnsigned cs

def read (text : String) : Option Double :=
  match text.toList with
  | '-' :: cs => (readMagnitude cs).map negate
  | '+' :: cs => readMagnitude cs
  | cs => readMagnitude cs

end Double

end CommandTree.Number
