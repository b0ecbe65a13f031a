import KeyCustody.Decimal.Binary

/-! The fewest digits that read back, and fixed counts of digits with ties to even. -/

set_option autoImplicit false

namespace KeyCustody.Decimal

def digitsOf (n : Nat) : List Char := Nat.toDigits 10 n

def roundQuotient (num den : Nat) : Nat :=
  let q := num / den
  let r := num % den
  if 2 * r < den then q else if den < 2 * r then q + 1 else if q % 2 = 0 then q else q + 1

-- Place of the leading digit of a positive fraction: `e` with `10 ^ e ≤ num / den < 10 ^ (e + 1)`.
def leadingPlace (num den : Nat) : Int :=
  if den ≤ num then decimalLength (num / den) - 1
  else
    let inverse := (den + num - 1) / num
    Int.negOfNat (decimalLength (inverse - 1))

def shift (num den : Nat) (places : Int) : Nat × Nat :=
  if 0 ≤ places then (num * Nat.pow 10 places.toNat, den)
  else (num, den * Nat.pow 10 (-places).toNat)

-- Reals that round to `mantissa * 2 ^ exponent`, over four times the denominator.
structure Interval where
  low : Nat
  high : Nat
  value : Nat
  den : Nat
  closed : Bool

def interval (mantissa : Nat) (exponent : Int) : Interval :=
  let (num, den) := fraction mantissa exponent
  let unit := (fraction 1 exponent).1
  let below := if mantissa = hiddenBit ∧ -1074 < exponent then unit else 2 * unit
  ⟨4 * num - below, 4 * num + 2 * unit, 4 * num, 4 * den, mantissa % 2 = 0⟩

def Interval.contains (i : Interval) (digit place : Nat × Nat) : Bool :=
  let a := digit.1 * place.1 * i.den
  let b := digit.2 * place.2
  if i.closed then i.low * b ≤ a && a ≤ i.high * b else i.low * b < a && a < i.high * b

-- Of the two neighbours with last place `10 ^ place`, the one in the interval that is nearer.
def Interval.neighbour? (i : Interval) (place : Int) : Option Nat :=
  let (num, den) := shift i.value i.den (-place)
  let unit := shift 1 1 place
  let below := num / den
  let nearest := roundQuotient num den
  let other := if nearest = below then below + 1 else below
  if i.contains (nearest, 1) unit then some nearest
  else if i.contains (other, 1) unit then some other
  else none

def Interval.search (i : Interval) : Nat → Int → Nat × Int
  | 0, place => ((i.neighbour? place).getD 0, place)
  | fuel + 1, place =>
    match i.neighbour? place with
    | some digits => (digits, place)
    | none => i.search fuel (place - 1)

def shortest (mantissa : Nat) (exponent : Int) : Nat × Int :=
  let (num, den) := fraction mantissa exponent
  (interval mantissa exponent).search 17 (leadingPlace num den)

def dropTrailingZeros (digits : List Char) : List Char :=
  (digits.reverse.dropWhile (· == '0')).reverse

def exponentText (exponent : Int) : List Char :=
  let size := digitsOf exponent.natAbs
  (if exponent < 0 then '-' else '+') :: (if size.length < 2 then '0' :: size else size)

def positional (digits : List Char) (place : Int) : List Char × List Char :=
  if place ≤ 0 then (['0'], List.replicate (-place).toNat '0' ++ digits)
  else
    (digits.take place.toNat ++ List.replicate (place.toNat - digits.length) '0',
      digits.drop place.toNat)

def signed (negative : Bool) (text : List Char) : List Char :=
  if negative then '-' :: text else text

def literal (x : Float) : List Char :=
  signed (isNegative x && magnitude x ≠ .notNumber) <|
    match magnitude x with
    | .notNumber => "nan".toList
    | .infinite => "inf".toList
    | .finite 0 _ => "0.0".toList
    | .finite m e =>
      let (number, place) := shortest m e
      let digits := digitsOf number
      let point := digits.length + place
      let digits := dropTrailingZeros digits
      if -4 < point ∧ point ≤ 16 then
        let (whole, part) := positional digits point
        whole ++ '.' :: (if part.isEmpty then ['0'] else part)
      else
        match digits with
        | [d] => d :: 'e' :: exponentText (point - 1)
        | d :: rest => d :: '.' :: rest ++ 'e' :: exponentText (point - 1)
        | [] => []

def fixed (num den places : Nat) (keepPoint : Bool) : List Char :=
  let digits := digitsOf (roundQuotient (num * Nat.pow 10 places) den)
  let digits := List.replicate (places + 1 - digits.length) '0' ++ digits
  let whole := digits.take (digits.length - places)
  let part := digits.drop (digits.length - places)
  if part.isEmpty && !keepPoint then whole else whole ++ '.' :: part

def significant (num den places : Nat) : List Char × Int :=
  if num = 0 then (List.replicate (places + 1) '0', 0)
  else
    let lead := leadingPlace num den
    let (n, d) := shift num den (places - lead)
    let digits := digitsOf (roundQuotient n d)
    if digits.length = places + 1 then (digits, lead) else (digits.take (places + 1), lead + 1)

def scientific (digits : List Char) (exponent : Int) (keepPoint : Bool) : List Char :=
  let (first, rest) := (digits.take 1, digits.drop 1)
  first ++ (if rest.isEmpty && !keepPoint then [] else '.' :: rest) ++ 'e' :: exponentText exponent

def general (num den precision : Nat) (keepZeros : Bool) : List Char :=
  let precision := max precision 1
  let (digits, exponent) := significant num den (precision - 1)
  let digits := if keepZeros then digits else
    match dropTrailingZeros digits with
    | [] => ['0']
    | digits => digits
  if -4 ≤ exponent ∧ exponent < precision then
    let (whole, part) := positional digits (exponent + 1)
    if part.isEmpty && !keepZeros then whole else whole ++ '.' :: part
  else scientific digits exponent keepZeros

end KeyCustody.Decimal
