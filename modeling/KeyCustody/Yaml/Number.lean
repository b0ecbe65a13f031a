import KeyCustody.Decimal.Binary
import KeyCustody.Fault
import KeyCustody.Text.Case
import KeyCustody.Text.Digit

set_option autoImplicit false

namespace KeyCustody.Yaml

def isDecimal (c : Char) : Bool := '0' ≤ c && c ≤ '9'

def isDecimalOr (c : Char) : Bool := isDecimal c || c == '_'

def dropSign : List Char → List Char
  | '+' :: rest | '-' :: rest => rest
  | text => text

def dropSixties : List Char → List Char
  | ':' :: a :: b :: rest =>
    if '0' ≤ a && a ≤ '5' && isDecimal b then dropSixties rest
    else if isDecimal a then dropSixties (b :: rest)
    else ':' :: a :: b :: rest
  | [':', a] => if isDecimal a then [] else [':', a]
  | text => text

def isSixties (text : List Char) : Bool := !text.isEmpty && (dropSixties text).isEmpty

def startsDecimal (text : List Char) : Bool := text.head?.any isDecimal

def isInteger (text : List Char) : Bool :=
  match dropSign text with
  | ['0'] => true
  | '0' :: 'b' :: digits => !digits.isEmpty && digits.all fun c => c == '0' || c == '1' || c == '_'
  | '0' :: 'x' :: digits =>
    !digits.isEmpty && digits.all fun c => (Hex.digitValue? c).isSome || c == '_'
  | '0' :: digits => digits.all fun c => ('0' ≤ c && c ≤ '7') || c == '_'
  | digits =>
    let tail := digits.dropWhile isDecimalOr
    startsDecimal digits && (tail.isEmpty || isSixties tail)

def isExponent : List Char → Bool
  | [] => true
  | e :: sign :: digits =>
    (e == 'e' || e == 'E') && (sign == '+' || sign == '-') && !digits.isEmpty &&
      digits.all isDecimal
  | _ => false

def infinityWords : List (List Char) := [".inf".toList, ".Inf".toList, ".INF".toList]

def notNumberWords : List (List Char) := [".nan".toList, ".NaN".toList, ".NAN".toList]

def isFraction (text : List Char) : Bool :=
  let digits := dropSign text
  if startsDecimal digits then
    match digits.dropWhile isDecimalOr with
    | '.' :: rest => isExponent (rest.dropWhile isDecimalOr)
    | tail =>
      match dropSixties tail with
      | '.' :: rest => tail.head? = some ':' && rest.all isDecimalOr
      | _ => false
  else
    infinityWords.contains digits || notNumberWords.contains text ||
      match text with
      | '.' :: rest => startsDecimal rest && isExponent (rest.dropWhile isDecimalOr)
      | _ => false

/-! ## What a number is worth -/

def isNegative (text : Text) : Bool := text.head? = some (.char '-')

def withoutSign (text : Text) : Text :=
  if isNegative text || text.head? = some (.char '+') then text.tail else text

def withoutUnderscores (text : Text) : Text := text.filter (· ≠ .char '_')

def splitColons : Text → List Text
  | [] => [[]]
  | point :: rest =>
    match splitColons rest with
    | [] => [[point]]
    | first :: others =>
      if point = .char ':' then [] :: first :: others else (point :: first) :: others

def figures (text : Text) : List Char :=
  (((Text.asciiFigures text).dropWhile Hex.isBlank).reverse.dropWhile Hex.isBlank).reverse

def digitBelow? (base : Nat) (c : Char) : Option Nat :=
  (Hex.digitValue? c).bind fun d => if d < base then some d else none

def baseLetters (base : Nat) : List Char :=
  if base = 2 then ['b', 'B']
  else if base = 8 then ['o', 'O']
  else if base = 16 then ['x', 'X']
  else []

def dropBase (base : Nat) : List Char → List Char
  | '0' :: c :: rest => if (baseLetters base).contains c then rest else '0' :: c :: rest
  | text => text

def readInteger (base : Nat) (text : Text) : Except ScalarFault Int :=
  let bare := figures text
  let digits := dropBase base (dropSign bare)
  let size : Option Nat :=
    digits.foldlM (fun n c => (digitBelow? base c).map fun d => n * base + d) 0
  match size with
  | some n =>
    if digits.isEmpty then .error (.notInteger text base)
    else .ok (if bare.head? = some '-' then -(n : Int) else n)
  | none => .error (.notInteger text base)

def integerOf (text : Text) : Except ScalarFault Int := do
  let text := withoutUnderscores text
  let negate (n : Int) : Int := if isNegative text then -n else n
  match text, withoutSign text with
  | [], _ | _, [] => throw .emptyNumber
  | _, [.char '0'] => return 0
  | _, .char '0' :: .char 'b' :: digits => return negate (← readInteger 2 digits)
  | _, .char '0' :: .char 'x' :: digits => return negate (← readInteger 16 digits)
  | _, .char '0' :: digits => return negate (← readInteger 8 (.char '0' :: digits))
  | _, digits =>
    if digits.contains (.char ':') then
      let parts ← (splitColons digits).mapM (readInteger 10)
      return negate (parts.foldl (fun n part => n * 60 + part) 0)
    else return negate (← readInteger 10 digits)

def readPoint? (text : List Char) : Option (Nat × Int) := do
  let whole := text.takeWhile isDecimal
  let tail := text.dropWhile isDecimal
  let (part, rest) := match tail with
    | '.' :: rest => (rest.takeWhile isDecimal, rest.dropWhile isDecimal)
    | rest => ([], rest)
  if whole.isEmpty && part.isEmpty then none
  let natOf (digits : List Char) : Nat := digits.foldl (fun n c => n * 10 + (c.toNat - 48)) 0
  let exponent ← match rest with
    | [] => some (0 : Int)
    | e :: rest =>
      let digits := dropSign rest
      if (e = 'e' ∨ e = 'E') ∧ !digits.isEmpty ∧ digits.all isDecimal then
        some (if rest.head? = some '-' then -(natOf digits : Int) else natOf digits)
      else none
  return (natOf (whole ++ part), exponent - part.length)

def readFloat (text : Text) : Except ScalarFault Float :=
  let bare := figures text
  let negative := bare.head? = some '-'
  let size := dropSign bare
  let word := String.ofList (size.map Char.toLower)
  if word = "inf" ∨ word = "infinity" then
    .ok (if negative then -Decimal.infinity else Decimal.infinity)
  else if word = "nan" then .ok Decimal.notNumber
  else
    match readPoint? size with
    | some (digits, exponent) => .ok (Decimal.ofDecimal negative digits exponent)
    | none => .error (.notFloat text)

-- The weight of a digit is exact until it is used, and has to be in range then.
def weigh (sum : Float) (unit : Nat) : List Float → Except ScalarFault Float
  | [] => .ok sum
  | digit :: rest =>
    match Decimal.ofInt? unit with
    | some weight => weigh (sum + digit * weight) (unit * 60) rest
    | none => .error .largeUnit

def floatOf (text : Text) : Except ScalarFault Float := do
  let text := Text.lower (withoutUnderscores text)
  let negate (x : Float) : Float := if isNegative text then -x else x
  let size := withoutSign text
  if text.isEmpty then throw .emptyNumber
  else if size = Text.ofString ".inf" then return negate Decimal.infinity
  else if size = Text.ofString ".nan" then return Decimal.notNumber
  else if size.contains (.char ':') then
    let digits ← (splitColons size).mapM readFloat
    return negate (← weigh 0 1 digits.reverse)
  else return negate (← readFloat size)

end KeyCustody.Yaml
