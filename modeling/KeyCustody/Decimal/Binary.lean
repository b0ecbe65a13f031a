set_option autoImplicit false

namespace KeyCustody.Decimal

inductive Magnitude where
  | finite (mantissa : Nat) (exponent : Int)
  | infinite
  | notNumber
deriving DecidableEq

def isNegative (x : Float) : Bool := x.toBits.toNat.testBit 63

def hiddenBit : Nat := 0x10000000000000

def magnitude (x : Float) : Magnitude :=
  let field : Nat := x.toBits.toNat / hiddenBit % 2048
  let fraction : Nat := x.toBits.toNat % hiddenBit
  if field = 2047 then if fraction = 0 then .infinite else .notNumber
  else if field = 0 then .finite fraction (-1074)
  else .finite (hiddenBit + fraction) (field - 1075)

def fraction (mantissa : Nat) (exponent : Int) : Nat × Nat :=
  if 0 ≤ exponent then (mantissa * Nat.pow 2 exponent.toNat, 1)
  else (mantissa, Nat.pow 2 (-exponent).toNat)

def truncate? (x : Float) : Option Int :=
  match magnitude x with
  | .finite m e =>
    let (num, den) := fraction m e
    some (if isNegative x then -(num / den : Nat) else (num / den : Nat))
  | _ => none

def isIntegral (x : Float) : Bool :=
  match magnitude x with
  | .finite m e => let (num, den) := fraction m e; num % den = 0
  | _ => false

def decimalLength (n : Nat) : Nat := (Nat.toDigits 10 n).length

-- Exponents beyond the range are settled first, so no power grows past what the digits need.
def ofDecimal (negative : Bool) (digits : Nat) (exponent : Int) : Float :=
  let top := exponent + decimalLength digits
  let size : Float :=
    if digits = 0 ∨ top < -330 then 0
    else if 310 < top then Float.ofBits 0x7ff0000000000000
    else Float.ofScientific digits (decide (exponent < 0)) exponent.natAbs
  if negative then -size else size

def ofInt? (n : Int) : Option Float :=
  let x := ofDecimal (n < 0) n.natAbs 0
  match magnitude x with
  | .finite _ _ => some x
  | _ => none

def infinity : Float := Float.ofBits 0x7ff0000000000000

def notNumber : Float := Float.ofBits 0x7ff8000000000000

end KeyCustody.Decimal
