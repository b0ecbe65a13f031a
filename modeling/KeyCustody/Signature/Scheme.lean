import KeyCustody.Message
import KeyCustody.SigningRoot

set_option autoImplicit false

namespace KeyCustody

def messageSigningRoot (chain : Chain) (message : Message) : Except Fault Bytes := do
  let root ← message.treeRoot
  let domain ← chain.builderDomain
  signingRoot root domain

-- Secrets are numbers; a scheme answers nothing for a secret outside its range.
structure Scheme where
  order : Nat
  generate : Bytes → Nat
  derive : Int → Option Bytes
  sign : Int → Bytes → Option Bytes
  verify : Bytes → Bytes → Bytes → Bool

namespace Scheme

structure Keyed (S : Scheme) : Prop where
  derive_isSome : ∀ secret, (S.derive secret).isSome = true ↔ 0 < secret ∧ secret < S.order
  length_derive : ∀ secret key, S.derive secret = some key → key.length = pubkeyLength

structure Signing (S : Scheme) : Prop where
  generate_pos : ∀ entropy, 0 < S.generate entropy
  generate_lt : ∀ entropy, S.generate entropy < S.order
  sign_isSome : ∀ secret root, (S.sign secret root).isSome = true ↔ 0 < secret ∧ secret < S.order
  length_sign : ∀ secret root signature, S.sign secret root = some signature →
    signature.length = signatureLength

structure Honest (S : Scheme) : Prop where
  verify_sign : ∀ secret key root signature, root.length = 32 → S.derive secret = some key →
    S.sign secret root = some signature → S.verify key root signature = true

variable (S : Scheme)

def secretLength : Nat := 32

def secretOfBytes (data : Bytes) : Except Fault Nat :=
  if data.length ≠ secretLength then .error (.secretLength data.length)
  else
    let secret := data.toNat
    if 0 < secret ∧ secret < S.order then .ok secret else .error .secretRange

def pubkeyOf (secret : Int) : Except Fault Bytes :=
  match S.derive secret with
  | some key => .ok key
  | none => .error .privateKey

def signMessage (chain : Chain) (secret : Int) (message : Message) : Except Fault Bytes := do
  let root ← messageSigningRoot chain message
  match S.sign secret root with
  | some signature => .ok signature
  | none => .error .secretKey

def verifyMessage (chain : Chain) (pubkey : Value) (message : Message) (signature : Value) :
    Except Fault Bool := do
  let root ← messageSigningRoot chain message
  match pubkey, signature with
  | .bytes key, .bytes signature => return S.verify key root signature
  | _, _ => return false

end Scheme

end KeyCustody
