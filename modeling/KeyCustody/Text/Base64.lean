import KeyCustody.Bytes

/-! Characters outside the alphabet are skipped, and reading ends at the padding. -/

set_option autoImplicit false

namespace KeyCustody.Text

def sextet? (c : Char) : Option Nat :=
  if 'A' ≤ c ∧ c ≤ 'Z' then some (c.toNat - 65)
  else if 'a' ≤ c ∧ c ≤ 'z' then some (c.toNat - 71)
  else if '0' ≤ c ∧ c ≤ '9' then some (c.toNat + 4)
  else if c = '+' then some 62
  else if c = '/' then some 63
  else none

-- Reads on after `place` characters of a group of four, the last of which left `carry`.
def base64From (place pads carry : Nat) : List Char → Option Bytes
  | [] => if place = 0 then some [] else none
  | c :: rest =>
    if c = '=' then
      if 2 ≤ place then
        if 4 ≤ place + (pads + 1) then some [] else base64From place (pads + 1) carry rest
      else base64From place pads carry rest
    else
      match sextet? c with
      | none => base64From place pads carry rest
      | some n =>
        match place with
        | 0 => base64From 1 0 n rest
        | 1 => (base64From 2 0 (n % 16) rest).map (UInt8.ofNat (carry * 4 + n / 16) :: ·)
        | 2 => (base64From 3 0 (n % 4) rest).map (UInt8.ofNat (carry * 16 + n / 4) :: ·)
        | _ => (base64From 0 0 0 rest).map (UInt8.ofNat (carry * 64 + n) :: ·)

def decodeBase64? (text : List Char) : Option Bytes := base64From 0 0 0 text

end KeyCustody.Text
