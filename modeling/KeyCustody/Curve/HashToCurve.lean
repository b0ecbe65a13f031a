import KeyCustody.Hash.Sha256
import KeyCustody.Curve.Point

/-!
Two field elements are drawn from the expanded message, each goes through the simplified map to an
isogenous curve and back, and the cofactor is cleared from their sum.
-/

set_option autoImplicit false

namespace KeyCustody.Curve

def expandBlocks (seed tag : Bytes) : Nat → Nat → Bytes → Bytes
  | 0, _, _ => []
  | count + 1, index, previous =>
    let block := sha256 (Bytes.xor seed previous ++ UInt8.ofNat index :: tag)
    block ++ expandBlocks seed tag count (index + 1) block

def expandMessage (message tag : Bytes) (length : Nat) : Bytes :=
  let tag := tag ++ [UInt8.ofNat tag.length]
  let seed := sha256 (Bytes.zeros 64 ++ message ++ Bytes.bigEndian 2 length ++ 0 :: tag)
  (expandBlocks seed tag ((length + 31) / 32) 1 (Bytes.zeros 32)).take length

def hashToField (message tag : Bytes) : Fp2 × Fp2 :=
  let expanded := expandMessage message tag 256
  let coordinate (i : Nat) : Fp := Fp.ofNat (Bytes.toNat ((expanded.drop (64 * i)).take 64))
  (⟨coordinate 0, coordinate 1⟩, ⟨coordinate 2, coordinate 3⟩)

namespace Isogenous

def a : Fp2 := .ofNats 0 240
def b : Fp2 := .ofNats 1012 1012

def z : Fp2 := -(.ofNats 2 1)

def rhs (x : Fp2) : Fp2 := x * x * x + a * x + b

def map (t : Fp2) : Fp2 × Fp2 :=
  let zt := z * (t * t)
  let d := zt * zt + zt
  let x1 :=
    if d = 0 then b * Fp2.inverse (z * a)
    else -b * Fp2.inverse a * (1 + Fp2.inverse d)
  let matchParity (y : Fp2) : Fp2 := if t.isOdd = y.isOdd then y else -y
  match (rhs x1).sqrt? with
  | some y => (x1, matchParity y)
  | none =>
    let x2 := zt * x1
    (x2, matchParity ((rhs x2).sqrt?.getD 0))

def eval (coefficients : List Fp2) (x : Fp2) : Fp2 :=
  coefficients.foldr (fun c acc => c + x * acc) 0

def xNumerator : List Fp2 := [
  .ofNats 0x5c759507e8e333ebb5b7a9a47d7ed8532c52d39fd3a042a88b58423c50ae15d5c2638e343d9c71c6238aaaaaaaa97d6
    0x5c759507e8e333ebb5b7a9a47d7ed8532c52d39fd3a042a88b58423c50ae15d5c2638e343d9c71c6238aaaaaaaa97d6,
  .ofNats 0
    0x11560bf17baa99bc32126fced787c88f984f87adf7ae0c7f9a208c6b4f20a4181472aaa9cb8d555526a9ffffffffc71a,
  .ofNats 0x11560bf17baa99bc32126fced787c88f984f87adf7ae0c7f9a208c6b4f20a4181472aaa9cb8d555526a9ffffffffc71e
    0x8ab05f8bdd54cde190937e76bc3e447cc27c3d6fbd7063fcd104635a790520c0a395554e5c6aaaa9354ffffffffe38d,
  .ofNats 0x171d6541fa38ccfaed6dea691f5fb614cb14b4e7f4e810aa22d6108f142b85757098e38d0f671c7188e2aaaaaaaa5ed1 0]

def xDenominator : List Fp2 := [
  .ofNats 0
    0x1a0111ea397fe69a4b1ba7b6434bacd764774b84f38512bf6730d2a0f6b0f6241eabfffeb153ffffb9feffffffffaa63,
  .ofNats 0xc
    0x1a0111ea397fe69a4b1ba7b6434bacd764774b84f38512bf6730d2a0f6b0f6241eabfffeb153ffffb9feffffffffaa9f,
  1]

def yNumerator : List Fp2 := [
  .ofNats 0x1530477c7ab4113b59a4c18b076d11930f7da5d4a07f649bf54439d87d27e500fc8c25ebf8c92f6812cfc71c71c6d706
    0x1530477c7ab4113b59a4c18b076d11930f7da5d4a07f649bf54439d87d27e500fc8c25ebf8c92f6812cfc71c71c6d706,
  .ofNats 0
    0x5c759507e8e333ebb5b7a9a47d7ed8532c52d39fd3a042a88b58423c50ae15d5c2638e343d9c71c6238aaaaaaaa97be,
  .ofNats 0x11560bf17baa99bc32126fced787c88f984f87adf7ae0c7f9a208c6b4f20a4181472aaa9cb8d555526a9ffffffffc71c
    0x8ab05f8bdd54cde190937e76bc3e447cc27c3d6fbd7063fcd104635a790520c0a395554e5c6aaaa9354ffffffffe38f,
  .ofNats 0x124c9ad43b6cf79bfbf7043de3811ad0761b0f37a1e26286b0e977c69aa274524e79097a56dc4bd9e1b371c71c718b10 0]

def yDenominator : List Fp2 := [
  .ofNats 0x1a0111ea397fe69a4b1ba7b6434bacd764774b84f38512bf6730d2a0f6b0f6241eabfffeb153ffffb9feffffffffa8fb
    0x1a0111ea397fe69a4b1ba7b6434bacd764774b84f38512bf6730d2a0f6b0f6241eabfffeb153ffffb9feffffffffa8fb,
  .ofNats 0
    0x1a0111ea397fe69a4b1ba7b6434bacd764774b84f38512bf6730d2a0f6b0f6241eabfffeb153ffffb9feffffffffa9d3,
  .ofNats 0x12
    0x1a0111ea397fe69a4b1ba7b6434bacd764774b84f38512bf6730d2a0f6b0f6241eabfffeb153ffffb9feffffffffaa99,
  1]

def toTwist (x y : Fp2) : G2 :=
  .ofAffine (eval xNumerator x * Fp2.inverse (eval xDenominator x))
    (y * eval yNumerator x * Fp2.inverse (eval yDenominator x))

end Isogenous

def effectiveCofactor : Nat :=
  0xbc69f08f2ee75b3584c6a0ea91b352888e2a8e9145ad7689986ff031508ffe1329c2f178731db956d82bf015d1212b02ec0ec69d7477c1ae954cbc06689f6a359894c0adebbf6b4e8020005aaa95551

def hashToCurve (message tag : Bytes) : G2 :=
  let (s, t) := hashToField message tag
  let p := Isogenous.map s
  let q := Isogenous.map t
  G2.multiply effectiveCofactor
    (Point.add (Isogenous.toTwist p.1 p.2) (Isogenous.toTwist q.1 q.2))

end KeyCustody.Curve
