/-! The base field of BLS12-381. Elements are kept reduced, so equality is that of residues. -/

set_option autoImplicit false

namespace KeyCustody.Curve

def bits (n : Nat) : List Bool := (List.range (n.log2 + 1)).reverse.map n.testBit

@[specialize] def chain {α : Type} (zero : α) (double : α → α) (add : α → α → α) (x : α)
    (n : Nat) : α :=
  (bits n).foldl (fun acc bit => if bit then add (double acc) x else double acc) zero

class Arithmetic (α : Type) extends Add α, Sub α, Mul α, Neg α, Zero α, One α, BEq α where
  inverse : α → α

@[specialize] def power {α : Type} [Arithmetic α] (x : α) (n : Nat) : α :=
  chain 1 (fun acc => acc * acc) (· * ·) x n

def modulus : Nat :=
  0x1a0111ea397fe69a4b1ba7b6434bacd764774b84f38512bf6730d2a0f6b0f6241eabfffeb153ffffb9feffffffffaaab

def order : Nat := 0x73eda753299d7d483339d80809a1d80553bda402fffe5bfeffffffff00000001

structure Fp where
  residue : Nat
deriving DecidableEq

namespace Fp

def ofNat (n : Nat) : Fp := ⟨n % modulus⟩

def add (a b : Fp) : Fp :=
  let sum := a.residue + b.residue
  ⟨if modulus ≤ sum then sum - modulus else sum⟩

def neg (a : Fp) : Fp := ⟨if a.residue = 0 then 0 else modulus - a.residue⟩

def sub (a b : Fp) : Fp :=
  ⟨if b.residue ≤ a.residue then a.residue - b.residue else a.residue + modulus - b.residue⟩

def mul (a b : Fp) : Fp := ofNat (a.residue * b.residue)

instance : Add Fp := ⟨add⟩
instance : Sub Fp := ⟨sub⟩
instance : Mul Fp := ⟨mul⟩
instance : Neg Fp := ⟨neg⟩
instance : Zero Fp := ⟨⟨0⟩⟩
instance : One Fp := ⟨⟨1⟩⟩

def pow (x : Fp) (n : Nat) : Fp := chain 1 (fun acc => acc * acc) (· * ·) x n

def inverse (x : Fp) : Fp := x.pow (modulus - 2)

instance : Arithmetic Fp where
  inverse := inverse

-- The modulus is 3 modulo 4.
def sqrt? (x : Fp) : Option Fp :=
  let root := x.pow ((modulus + 1) / 4)
  if root * root = x then some root else none

def isLarge (x : Fp) : Bool := modulus ≤ 2 * x.residue

end Fp

end KeyCustody.Curve
