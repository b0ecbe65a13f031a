import KeyCustody.Curve.Extension

/-! Jacobian coordinates on `y² = x³ + b`: `(x, y, z)` stands for `(x/z², y/z³)`. -/

set_option autoImplicit false

namespace KeyCustody.Curve

structure Point (α : Type) where
  x : α
  y : α
  z : α

namespace Point

variable {α : Type}

def infinity [Arithmetic α] : Point α := ⟨1, 1, 0⟩

def ofAffine [Arithmetic α] (x y : α) : Point α := ⟨x, y, 1⟩

def isInfinity [Arithmetic α] (p : Point α) : Bool := p.z == 0

def toAffine? [Arithmetic α] (p : Point α) : Option (α × α) :=
  if p.isInfinity then none
  else
    let i := Arithmetic.inverse p.z
    let i2 := i * i
    some (p.x * i2, p.y * (i2 * i))

def negate [Arithmetic α] (p : Point α) : Point α := ⟨p.x, -p.y, p.z⟩

@[specialize] def double [Arithmetic α] (p : Point α) : Point α :=
  let a := p.x * p.x
  let b := p.y * p.y
  let c := b * b
  let s := p.x + b
  let d := s * s - a - c
  let d := d + d
  let e := a + a + a
  let x := e * e - (d + d)
  let c2 := c + c
  let c4 := c2 + c2
  let yz := p.y * p.z
  ⟨x, e * (d - x) - (c4 + c4), yz + yz⟩

@[specialize] def add [Arithmetic α] (p q : Point α) : Point α :=
  if p.isInfinity then q
  else if q.isInfinity then p
  else
    let pz2 := p.z * p.z
    let qz2 := q.z * q.z
    let u := p.x * qz2
    let h := q.x * pz2 - u
    let s := p.y * (qz2 * q.z)
    let r := q.y * (pz2 * p.z) - s
    if h == 0 then
      if r == 0 then double p else infinity
    else
      let h2 := h * h
      let h3 := h2 * h
      let v := u * h2
      let x := r * r - h3 - (v + v)
      ⟨x, r * (v - x) - s * h3, h * (p.z * q.z)⟩

@[specialize] def multiply [Arithmetic α] (n : Nat) (p : Point α) : Point α :=
  chain infinity double add p n

def inSubgroup [Arithmetic α] (p : Point α) : Bool := (multiply order p).isInfinity

end Point

abbrev G1 := Point Fp

abbrev G2 := Point Fp2

namespace G1

def multiply (n : Nat) (p : G1) : G1 := chain Point.infinity Point.double Point.add p n

def generator : G1 := .ofAffine
  ⟨0x17f1d3a73197d7942695638c4fa9ac0fc3688c4f9774b905a14e3a3f171bac586c55e83ff97a1aeffb3af00adb22c6bb⟩
  ⟨0x08b3f481e3aaa0f1a09e30ed741d8ae4fcf5e095d5d00af600db18cb2c04b3edd03cc744a2888ae40caa232946c5e7e1⟩

def rhs (x : Fp) : Fp := x * x * x + ⟨4⟩

end G1

namespace G2

def multiply (n : Nat) (p : G2) : G2 := chain Point.infinity Point.double Point.add p n

def rhs (x : Fp2) : Fp2 := x * x * x + ⟨⟨4⟩, ⟨4⟩⟩

end G2

end KeyCustody.Curve
