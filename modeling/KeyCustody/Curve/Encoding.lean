import KeyCustody.Bytes
import KeyCustody.Curve.Point

/-! Compressed points. Reading accepts only what writing produces. -/

set_option autoImplicit false

namespace KeyCustody.Curve

def coordinateBits : Nat := 381

structure Flags where
  compressed : Bool
  infinite : Bool
  large : Bool
deriving DecidableEq

def Flags.toNat (flags : Flags) : Nat :=
  4 * flags.compressed.toNat + 2 * flags.infinite.toNat + flags.large.toNat

def Flags.ofNat (n : Nat) : Flags := ⟨n.testBit 2, n.testBit 1, n.testBit 0⟩

def splitFlags (n : Nat) : Flags × Nat :=
  (.ofNat (n / Nat.pow 2 coordinateBits), n % Nat.pow 2 coordinateBits)

def withFlags (flags : Flags) (x : Fp) : Bytes :=
  Bytes.bigEndian 48 (flags.toNat * Nat.pow 2 coordinateBits + x.residue)

namespace G1

def encode (p : G1) : Bytes :=
  match p.toAffine? with
  | none => withFlags ⟨true, true, false⟩ 0
  | some (x, y) => withFlags ⟨true, false, y.isLarge⟩ x

def decode? (bytes : Bytes) : Option G1 :=
  if bytes.length ≠ 48 then none
  else
    let (flags, n) := splitFlags bytes.toNat
    if !flags.compressed then none
    else if flags.infinite then
      if n = 0 ∧ !flags.large then some Point.infinity else none
    else if n = 0 ∨ modulus ≤ n then none
    else do
      let y ← (rhs ⟨n⟩).sqrt?
      return .ofAffine ⟨n⟩ (if y.isLarge = flags.large then y else -y)

end G1

namespace G2

def encode (p : G2) : Bytes :=
  match p.toAffine? with
  | none => withFlags ⟨true, true, false⟩ 0 ++ Bytes.bigEndian 48 0
  | some (x, y) => withFlags ⟨true, false, y.isLarge⟩ x.im ++ Bytes.bigEndian 48 x.re.residue

def decode? (bytes : Bytes) : Option G2 :=
  if bytes.length ≠ 96 then none
  else
    let (flags, im) := splitFlags (Bytes.toNat (bytes.take 48))
    let re := Bytes.toNat (bytes.drop 48)
    if !flags.compressed then none
    else if flags.infinite then
      if im = 0 ∧ re = 0 ∧ !flags.large then some Point.infinity else none
    else if (im = 0 ∧ re = 0) ∨ modulus ≤ im ∨ modulus ≤ re then none
    else do
      let x : Fp2 := ⟨⟨re⟩, ⟨im⟩⟩
      let y ← (rhs x).sqrt?
      return .ofAffine x (if y.isLarge = flags.large then y else -y)

end G2

end KeyCustody.Curve
