set_option autoImplicit false

namespace KeyCustody

abbrev Bytes := List UInt8

namespace Bytes

def toNat (bytes : Bytes) : Nat :=
  bytes.foldl (fun acc byte => acc * 256 + byte.toNat) 0

def littleEndian : Nat → Nat → Bytes
  | 0, _ => []
  | width + 1, n => UInt8.ofNat n :: littleEndian width (n / 256)

def bigEndian (width n : Nat) : Bytes := (littleEndian width n).reverse

@[simp] theorem length_little_endian (width n : Nat) : (littleEndian width n).length = width := by
  induction width generalizing n with
  | zero => rfl
  | succ width ih => simp [littleEndian, ih]

@[simp] theorem length_big_endian (width n : Nat) : (bigEndian width n).length = width := by
  simp [bigEndian]

def zeros (count : Nat) : Bytes := List.replicate count 0

@[simp] theorem length_zeros (count : Nat) : (zeros count).length = count := by
  simp [zeros]

def padTo (width : Nat) (bytes : Bytes) : Bytes := bytes ++ zeros (width - bytes.length)

def xor (a b : Bytes) : Bytes := List.zipWith (· ^^^ ·) a b

def repeated : Nat → Bytes → Bytes
  | 0, _ => []
  | count + 1, bytes => bytes ++ repeated count bytes

end Bytes

end KeyCustody
