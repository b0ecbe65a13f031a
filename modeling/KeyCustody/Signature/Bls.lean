import KeyCustody.Hash.Hkdf
import KeyCustody.Signature.Scheme
import KeyCustody.Curve.Encoding
import KeyCustody.Curve.HashToCurve
import KeyCustody.Curve.Pairing

/-! BLS signatures with keys in the smaller group, in the proof-of-possession suite. -/

set_option autoImplicit false

namespace KeyCustody.Bls

open Curve

def ascii (text : String) : Bytes := text.toList.map fun c => UInt8.ofNat c.toNat

def tag : Bytes := ascii "BLS_SIG_BLS12381G2_XMD:SHA-256_SSWU_RO_POP_"

def salt : Bytes := ascii "BLS-SIG-KEYGEN-SALT-"

def candidate (salt entropy : Bytes) : Nat :=
  Bytes.toNat (Hkdf.expand (Hkdf.extract salt (entropy ++ [0])) (Bytes.bigEndian 2 48) 48) % order

def generateFrom (entropy : Bytes) : Nat → Bytes → Nat
  | 0, _ => 0
  | tries + 1, salt =>
    let salt := sha256 salt
    let secret := candidate salt entropy
    if secret = 0 then generateFrom entropy tries salt else secret

def generate (entropy : Bytes) : Nat := generateFrom entropy 256 salt

def isSecret (secret : Int) : Bool := 0 < secret && secret < order

def derive (secret : Int) : Option Bytes :=
  if isSecret secret then some (G1.encode (G1.multiply secret.toNat G1.generator)) else none

def sign (secret : Int) (message : Bytes) : Option Bytes :=
  if isSecret secret then some (G2.encode (G2.multiply secret.toNat (hashToCurve message tag)))
  else none

def readKey? (bytes : Bytes) : Option G1 := do
  let key ← G1.decode? bytes
  if key.isInfinity || !key.inSubgroup then none else some key

def verify (key message signature : Bytes) : Bool :=
  match readKey? key, G2.decode? signature with
  | some key, some signature =>
    signature.inSubgroup &&
      pairingProductIsOne
        [(G1.generator, signature), (key.negate, hashToCurve message tag)]
  | _, _ => false

def scheme : Scheme := ⟨order, generate, derive, sign, verify⟩

end KeyCustody.Bls
