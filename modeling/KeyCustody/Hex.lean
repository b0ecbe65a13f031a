import KeyCustody.Bytes
import KeyCustody.Text

set_option autoImplicit false

namespace KeyCustody.Hex

def digit (n : Nat) : Char := if n < 10 then Char.ofNat (48 + n) else Char.ofNat (87 + n)

def digitValue? (c : Char) : Option Nat :=
  if '0' ≤ c ∧ c ≤ '9' then some (c.toNat - 48)
  else if 'a' ≤ c ∧ c ≤ 'f' then some (c.toNat - 87)
  else if 'A' ≤ c ∧ c ≤ 'F' then some (c.toNat - 55)
  else none

def isBlank (c : Char) : Bool :=
  c == ' ' || c == '\t' || c == '\n' || c == '\r' || c == '\x0b' || c == '\x0c'

def pair (byte : UInt8) : List Char := [digit (byte.toNat / 16), digit (byte.toNat % 16)]

def encode (bytes : Bytes) : List Char := bytes.flatMap pair

def decode? : List Char → Option Bytes
  | [] => some []
  | [c] => if isBlank c then some [] else none
  | c :: d :: rest =>
    if isBlank c then decode? (d :: rest)
    else do
      let high ← digitValue? c
      let low ← digitValue? d
      let bytes ← decode? rest
      return UInt8.ofNat (high * 16 + low) :: bytes

def stripMarker : List Char → List Char
  | '0' :: 'x' :: rest => rest
  | '0' :: 'X' :: rest => rest
  | text => text

def plain (bytes : Bytes) : String := String.ofList (encode bytes)

def render (bytes : Bytes) : String := String.ofList ('0' :: 'x' :: encode bytes)

def abbreviate (bytes : Bytes) : String :=
  let full := encode bytes
  String.ofList ('0' :: 'x' :: full.take 8 ++ '.' :: '.' :: full.drop (full.length - 4))

def read? (text : Text) : Option Bytes := do decode? (stripMarker (← text.chars?))

end KeyCustody.Hex
