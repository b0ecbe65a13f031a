import KeyCustody.Curve.Field

/-! `Fp2 = Fp[u]/(u² + 1)`, `Fp6 = Fp2[v]/(v³ - (1 + u))` and `Fp12 = Fp6[w]/(w² - v)`. -/

set_option autoImplicit false

namespace KeyCustody.Curve

structure Fp2 where
  re : Fp
  im : Fp
deriving DecidableEq

namespace Fp2

def ofNats (re im : Nat) : Fp2 := ⟨Fp.ofNat re, Fp.ofNat im⟩

instance : Add Fp2 := ⟨fun a b => ⟨a.re + b.re, a.im + b.im⟩⟩
instance : Sub Fp2 := ⟨fun a b => ⟨a.re - b.re, a.im - b.im⟩⟩
instance : Neg Fp2 := ⟨fun a => ⟨-a.re, -a.im⟩⟩
instance : Zero Fp2 := ⟨⟨0, 0⟩⟩
instance : One Fp2 := ⟨⟨1, 0⟩⟩

def mul (a b : Fp2) : Fp2 :=
  ⟨Fp.ofNat (a.re.residue * b.re.residue + (modulus - a.im.residue) * b.im.residue),
   Fp.ofNat (a.re.residue * b.im.residue + a.im.residue * b.re.residue)⟩

instance : Mul Fp2 := ⟨mul⟩

def scale (k : Fp) (a : Fp2) : Fp2 := ⟨k * a.re, k * a.im⟩

def norm (a : Fp2) : Fp := a.re * a.re + a.im * a.im

def inverse (a : Fp2) : Fp2 :=
  let k := Fp.inverse (norm a)
  ⟨k * a.re, k * -a.im⟩

instance : Arithmetic Fp2 where
  inverse := inverse

-- The product with `1 + u`, which is neither a square nor a cube.
def mulNonresidue (a : Fp2) : Fp2 := ⟨a.re - a.im, a.re + a.im⟩

def sqrt? (a : Fp2) : Option Fp2 :=
  let half := Fp.ofNat ((modulus + 1) / 2)
  let check (root : Fp2) : Option Fp2 := if root * root = a then some root else none
  if a.im = 0 then
    match a.re.sqrt? with
    | some root => some ⟨root, 0⟩
    | none => (-a.re).sqrt?.bind fun root => check ⟨0, root⟩
  else do
    let size ← (norm a).sqrt?
    let root ← ((a.re + size) * half).sqrt? <|> ((a.re - size) * half).sqrt?
    check ⟨root, a.im * half * Fp.inverse root⟩

def isOdd (a : Fp2) : Bool :=
  if a.re = 0 then a.im.residue % 2 = 1 else a.re.residue % 2 = 1

def isLarge (a : Fp2) : Bool := if a.im = 0 then a.re.isLarge else a.im.isLarge

end Fp2

structure Fp6 where
  c0 : Fp2
  c1 : Fp2
  c2 : Fp2
deriving DecidableEq

namespace Fp6

instance : Add Fp6 := ⟨fun a b => ⟨a.c0 + b.c0, a.c1 + b.c1, a.c2 + b.c2⟩⟩
instance : Sub Fp6 := ⟨fun a b => ⟨a.c0 - b.c0, a.c1 - b.c1, a.c2 - b.c2⟩⟩
instance : Zero Fp6 := ⟨⟨0, 0, 0⟩⟩
instance : One Fp6 := ⟨⟨1, 0, 0⟩⟩

def mul (a b : Fp6) : Fp6 :=
  let t0 := a.c0 * b.c0
  let t1 := a.c1 * b.c1
  let t2 := a.c2 * b.c2
  ⟨t0 + Fp2.mulNonresidue ((a.c1 + a.c2) * (b.c1 + b.c2) - t1 - t2),
   (a.c0 + a.c1) * (b.c0 + b.c1) - t0 - t1 + Fp2.mulNonresidue t2,
   (a.c0 + a.c2) * (b.c0 + b.c2) - t0 - t2 + t1⟩

instance : Mul Fp6 := ⟨mul⟩

def mulV (a : Fp6) : Fp6 := ⟨Fp2.mulNonresidue a.c2, a.c0, a.c1⟩

end Fp6

structure Fp12 where
  c0 : Fp6
  c1 : Fp6
deriving DecidableEq

namespace Fp12

instance : One Fp12 := ⟨⟨1, 0⟩⟩

def mul (a b : Fp12) : Fp12 :=
  let t0 := a.c0 * b.c0
  let t1 := a.c1 * b.c1
  ⟨t0 + Fp6.mulV t1, (a.c0 + a.c1) * (b.c0 + b.c1) - t0 - t1⟩

def square (a : Fp12) : Fp12 :=
  let t := a.c0 * a.c1
  ⟨(a.c0 + a.c1) * (a.c0 + Fp6.mulV a.c1) - t - Fp6.mulV t, t + t⟩

instance : Mul Fp12 := ⟨mul⟩

def pow (x : Fp12) (n : Nat) : Fp12 := chain 1 square (· * ·) x n

end Fp12

end KeyCustody.Curve
