import KeyCustody.Curve.Point

/-!
The ate pairing of BLS12-381 up to a fixed exponent. A product of pairings is compared with one, so
the loop may drop factors from proper subfields and the sign of its parameter.
-/

set_option autoImplicit false

namespace KeyCustody.Curve

def loopCount : Nat := 0xd201000000010000

def line (slope x y : Fp2) (p : Fp × Fp) : Fp12 :=
  ⟨⟨slope * x - y, -(Fp2.scale p.1 slope), 0⟩, ⟨0, ⟨p.2, 0⟩, 0⟩⟩

structure LoopState where
  value : Fp12
  x : Fp2
  y : Fp2

def chordStep (p : Fp × Fp) (s : LoopState) (slope x : Fp2) : LoopState :=
  let x3 := slope * slope - s.x - x
  ⟨s.value * line slope s.x s.y p, x3, slope * (s.x - x3) - s.y⟩

def doubleStep (p : Fp × Fp) (s : LoopState) : LoopState :=
  let square := s.x * s.x
  let slope := (square + square + square) * Fp2.inverse (s.y + s.y)
  chordStep p { s with value := s.value.square } slope s.x

def addStep (p : Fp × Fp) (q : Fp2 × Fp2) (s : LoopState) : LoopState :=
  chordStep p s ((q.2 - s.y) * Fp2.inverse (q.1 - s.x)) q.1

def millerLoop (p : Fp × Fp) (q : Fp2 × Fp2) : Fp12 :=
  ((bits loopCount).tail.foldl
    (fun (s : LoopState) (bit : Bool) =>
      if bit then addStep p q (doubleStep p s) else doubleStep p s)
    ⟨1, q.1, q.2⟩).value

def pairingFactor (p : G1) (q : G2) : Fp12 :=
  match p.toAffine?, q.toAffine? with
  | some p, some q => millerLoop p q
  | _, _ => 1

def finalExponent : Nat := (Nat.pow modulus 12 - 1) / order

def pairingProductIsOne (pairs : List (G1 × G2)) : Bool :=
  Fp12.pow (pairs.foldl (fun acc pair => acc * pairingFactor pair.1 pair.2) 1) finalExponent = 1

end KeyCustody.Curve
