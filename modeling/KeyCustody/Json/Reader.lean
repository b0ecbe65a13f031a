import KeyCustody.Hex
import KeyCustody.Value
import KeyCustody.Decimal.Binary

/-! JSON text, with the words for infinities and for no number beside the standard grammar. -/

set_option autoImplicit false

namespace KeyCustody.Json

-- Where readers differ: how deep containers with members may nest, how many digits may stand in
-- front of a point, if there is a limit, and whether half of a surrogate pair may stand alone.
structure Rules where
  depth : Nat
  digits : Option Nat
  loneHalves : Bool

def strict : Rules := ⟨200, some 4300, false⟩

def lenient : Rules := ⟨9980, none, true⟩

inductive Failure where
  | malformed
  | deepList
  | deepMapping
deriving DecidableEq

def orMalformed {α : Type} : Option α → Except Failure α
  | some a => .ok a
  | none => .error .malformed

def isSpace (c : Char) : Bool := c == ' ' || c == '\t' || c == '\n' || c == '\r'

def skipSpace (text : List Char) : List Char := text.dropWhile isSpace

def isDigit (c : Char) : Bool := '0' ≤ c && c ≤ '9'

def natOf (digits : List Char) : Nat := digits.foldl (fun n c => n * 10 + (c.toNat - 48)) 0

def hex4? (a b c d : Char) : Option Nat := do
  let a ← Hex.digitValue? a
  let b ← Hex.digitValue? b
  let c ← Hex.digitValue? c
  let d ← Hex.digitValue? d
  return ((a * 16 + b) * 16 + c) * 16 + d

def isHighSurrogate (n : Nat) : Bool := 0xd800 ≤ n && n < 0xdc00

def isLowSurrogate (n : Nat) : Bool := 0xdc00 ≤ n && n < 0xe000

def unescape? : Char → Option Char
  | '"' => some '"'
  | '\\' => some '\\'
  | '/' => some '/'
  | 'n' => some '\n'
  | 'r' => some '\r'
  | 't' => some '\t'
  | 'b' => some '\x08'
  | 'f' => some '\x0c'
  | _ => none

def prepend (point : CodePoint) (read : Option (Text × List Char)) : Option (Text × List Char) :=
  read.map fun (text, rest) => (point :: text, rest)

def readPoints : List Char → Option (Text × List Char)
  | [] => none
  | '"' :: rest => some ([], rest)
  | '\\' :: 'u' :: a :: b :: c :: d :: rest =>
    match hex4? a b c d with
    | some n => prepend (.ofCode n) (readPoints rest)
    | none => none
  | '\\' :: c :: rest =>
    match unescape? c with
    | some c => prepend c (readPoints rest)
    | none => none
  | c :: rest => if c.toNat < 32 then none else prepend c (readPoints rest)

def joinHalves : Text → Text
  | first :: second :: rest =>
    if isHighSurrogate first.code && isLowSurrogate second.code then
      .ofCode (0x10000 + (first.code - 0xd800) * 1024 + (second.code - 0xdc00)) :: joinHalves rest
    else first :: joinHalves (second :: rest)
  | points => points

def readText (rules : Rules) (text : List Char) : Option (Text × List Char) := do
  let (points, rest) ← readPoints text
  let joined := joinHalves points
  if joined.any (·.isHalf) && !rules.loneHalves then none else return (joined, rest)

def readFraction? : List Char → Option (List Char × List Char)
  | '.' :: rest =>
    let digits := rest.takeWhile isDigit
    if digits.isEmpty then none else some (digits, rest.dropWhile isDigit)
  | rest => some ([], rest)

def readSign : List Char → Bool × List Char
  | '-' :: rest => (true, rest)
  | '+' :: rest => (false, rest)
  | rest => (false, rest)

def readExponent? : List Char → Option (Int × List Char)
  | c :: rest =>
    if c = 'e' ∨ c = 'E' then
      let (negative, rest) := readSign rest
      let digits := rest.takeWhile isDigit
      if digits.isEmpty then none
      else
        let size : Int := natOf digits
        some (if negative then -size else size, rest.dropWhile isDigit)
    else some (0, c :: rest)
  | [] => some (0, [])

def readMagnitude? (rules : Rules) (negative : Bool) (text : List Char) :
    Option (Value × List Char) := do
  let whole := text.takeWhile isDigit
  if whole.isEmpty || (whole.head? == some '0' && 1 < whole.length) then none
  if rules.digits.any fun limit => limit < whole.length then none
  let tail := text.dropWhile isDigit
  let (part, afterPart) ← readFraction? tail
  let (exponent, rest) ← readExponent? afterPart
  if rest.length = tail.length then
    let size : Int := natOf whole
    return (.int (if negative then -size else size), rest)
  else
    let digits := natOf (whole ++ part)
    return (.float (Decimal.ofDecimal negative digits (exponent - part.length)), rest)

def readWord? (rules : Rules) : List Char → Option (Value × List Char)
  | 'n' :: 'u' :: 'l' :: 'l' :: rest => some (.null, rest)
  | 't' :: 'r' :: 'u' :: 'e' :: rest => some (.bool true, rest)
  | 'f' :: 'a' :: 'l' :: 's' :: 'e' :: rest => some (.bool false, rest)
  | 'N' :: 'a' :: 'N' :: rest => some (.float Decimal.notNumber, rest)
  | 'I' :: 'n' :: 'f' :: 'i' :: 'n' :: 'i' :: 't' :: 'y' :: rest =>
    some (.float Decimal.infinity, rest)
  | '-' :: 'I' :: 'n' :: 'f' :: 'i' :: 'n' :: 'i' :: 't' :: 'y' :: rest =>
    some (.float (-Decimal.infinity), rest)
  | '-' :: rest => readMagnitude? rules true rest
  | text => readMagnitude? rules false text

mutual

-- The first count bounds the steps, the second the nesting.
def readValue (rules : Rules) : Nat → Nat → List Char → Except Failure (Value × List Char)
  | 0, _, _ => .error .malformed
  | fuel + 1, depth, text =>
    match skipSpace text with
    | '"' :: rest => do
      let (s, rest) ← orMalformed (readText rules rest)
      return (.text s, rest)
    | '[' :: rest =>
      match skipSpace rest with
      | ']' :: rest => .ok (.list [], rest)
      | rest =>
        if depth = 0 then .error .deepList
        else (readItems rules fuel (depth - 1) rest).map fun (items, rest) => (.list items, rest)
    | '\x7b' :: rest =>
      match skipSpace rest with
      | '\x7d' :: rest => .ok (.mapping [], rest)
      | rest =>
        if depth = 0 then .error .deepMapping
        else (readEntries rules fuel (depth - 1) rest).map fun (entries, rest) =>
          (.mapping entries, rest)
    | text => orMalformed (readWord? rules text)

def readItems (rules : Rules) :
    Nat → Nat → List Char → Except Failure (List Value × List Char)
  | 0, _, _ => .error .malformed
  | fuel + 1, depth, text => do
    let (item, rest) ← readValue rules fuel depth text
    match skipSpace rest with
    | ',' :: rest =>
      let (items, rest) ← readItems rules fuel depth rest
      return (item :: items, rest)
    | ']' :: rest => return ([item], rest)
    | _ => .error .malformed

def readEntries (rules : Rules) :
    Nat → Nat → List Char → Except Failure (List (Value × Value) × List Char)
  | 0, _, _ => .error .malformed
  | fuel + 1, depth, text =>
    match skipSpace text with
    | '"' :: rest => do
      let (name, rest) ← orMalformed (readText rules rest)
      match skipSpace rest with
      | ':' :: rest =>
        let (value, rest) ← readValue rules fuel depth rest
        let entry : Value × Value := (.text name, value)
        match skipSpace rest with
        | ',' :: rest =>
          let (entries, rest) ← readEntries rules fuel depth rest
          return (entry :: entries, rest)
        | '\x7d' :: rest => return ([entry], rest)
        | _ => .error .malformed
      | _ => .error .malformed
    | _ => .error .malformed

end

def read (rules : Rules) (text : List Char) : Except Failure Value := do
  let (value, rest) ← readValue rules (text.length + 1) rules.depth text
  if (skipSpace rest).isEmpty then return value else throw .malformed

def read? (rules : Rules) (text : List Char) : Option Value := (read rules text).toOption

end KeyCustody.Json
