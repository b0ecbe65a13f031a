import KeyCustody.Curve.Field
import KeyCustody.Proofs.Run

/-!
A scheme that keeps every promise. For one recorded holder, two recorded entropies and the
delegation from the holder to the first proxy it tells what the curve tells; all other keys and
signatures spell their own content.
-/

set_option autoImplicit false

namespace KeyCustody.Recorded

def holderSecret : Nat := 21

def holderKey : Bytes := Bytes.bigEndian pubkeyLength
  0x9780e853f8ce7eda772c6691d25e220ca1d2ab0db51a7824b700620f7ac94c06639e91c98bb6abd78128f0ec845df8ef

def entropy : Bytes := Bytes.bigEndian 32
  0x084fed08b978af4d7d196a7446a86b58009e636b611db16211b65a9aadff29c5

def proxySecret : Nat := 0x4309fcb4d60c95a5fdeeefaf2c634556908168be5c6ecd7fd59644c5a64ee1b2

def proxyKey : Bytes := Bytes.bigEndian pubkeyLength
  0x8e9c56256afc402859daca0954703001b1651f64eff96ba65204bb76e15ac39f03876dff1cb727e27163ed29d79c470f

def laterEntropy : Bytes := Bytes.bigEndian 32
  0x0102030405060708090a0b0c0d0e0f101112131415161718191a1b1c1d1e1f20

def laterSecret : Nat := 0x6d282676c1798109d9156328d858a481ef8855eeccdeb82e4c14e6f2c71ab04c

def laterKey : Bytes := Bytes.bigEndian pubkeyLength
  0xa94be725aa82373cebc022086b9ee21432026c2580c17f9da0265fd38cf9e716db041b2d7ed7128eaa7365cc8886963a

def delegation : Delegation := ⟨holderKey, proxyKey⟩

-- The signing root of the delegation on the main network.
def delegationRoot : Bytes := Bytes.bigEndian 32
  0xcc44a403e8d33cc4d76fc062bd68533b5a378709ecf1dea7af216fad890fb8a8

def signature : Bytes := Bytes.bigEndian signatureLength
  0xb1147a546e72c90f1eafcd4548e9b09cf093b59f9149a9c8173037ff35036cf67a72661d39967161b6613e974087a77f1590747a89d13baba164db92e0ef87930c6b43597691082e0ca347a5e23932f1ba1b6a6f401cdea8ca2d7bc228a04f89

def keyOf (secret : Nat) : Bytes :=
  if secret = holderSecret then holderKey
  else if secret = proxySecret then proxyKey
  else if secret = laterSecret then laterKey
  else Bytes.bigEndian pubkeyLength secret

def signatureOf (key root : Bytes) : Bytes :=
  if key = holderKey ∧ root = delegationRoot then signature
  else Bytes.bigEndian signatureLength (key ++ root).toNat

def scheme : Scheme where
  order := Curve.order
  generate data :=
    if data = entropy then proxySecret else if data = laterEntropy then laterSecret else 1
  derive secret := if 0 < secret ∧ secret < Curve.order then some (keyOf secret.toNat) else none
  sign secret root :=
    if 0 < secret ∧ secret < Curve.order then some (signatureOf (keyOf secret.toNat) root) else none
  verify key root given := given = signatureOf key root

theorem key_of_length (secret : Nat) : (keyOf secret).length = pubkeyLength := by
  rw [keyOf]
  repeat' split
  all_goals exact Bytes.length_big_endian _ _

theorem signature_of_length (key root : Bytes) :
    (signatureOf key root).length = signatureLength := by
  unfold signatureOf
  split <;> exact Bytes.length_big_endian _ _

theorem guarded_is_some_iff {α : Type} (range : Prop) [Decidable range] (answer : α) :
    (if range then some answer else none).isSome = true ↔ range := by
  by_cases inside : range <;> simp [inside]

theorem keyed : scheme.Keyed where
  derive_isSome secret := guarded_is_some_iff _ _
  length_derive secret key derived := by
    obtain ⟨_, told⟩ := Option.ite_none_right_eq_some.mp derived
    cases told
    exact key_of_length _

theorem signing : scheme.Signing where
  generate_pos data := by
    simp only [scheme]
    repeat' split
    all_goals decide
  generate_lt data := by
    simp only [scheme]
    repeat' split
    all_goals decide
  sign_isSome secret root := guarded_is_some_iff _ _
  length_sign secret root given signed := by
    obtain ⟨_, told⟩ := Option.ite_none_right_eq_some.mp signed
    cases told
    exact signature_of_length _ _

theorem honest : scheme.Honest where
  verify_sign secret key root given _ derived signed := by
    obtain ⟨_, keyTold⟩ := Option.ite_none_right_eq_some.mp derived
    obtain ⟨_, signatureTold⟩ := Option.ite_none_right_eq_some.mp signed
    cases keyTold
    cases signatureTold
    exact decide_eq_true rfl

open Registry in
-- The holder is registered twice around the minting of its proxy, and asked too early at first.
def early : List Move :=
  [⟨.empty, .createProxy entropy (.bytes holderKey)⟩,
    ⟨.empty, .addConsensus (.secret (Bytes.bigEndian 32 holderSecret))⟩]

open Registry in
def mint : Move := ⟨.empty, .createProxy entropy (.text (Text.ofChars (Hex.encode holderKey)))⟩

open Registry in
def late : List Move :=
  [⟨.empty, .addConsensus (.backend (.plain holderSecret))⟩]

open Registry in
def registry : Registry := (empty .mainnet).reach scheme (early ++ mint :: late)

example : registry.consensus.keys = [holderKey] ∧ registry.proxies.keys = [proxyKey] ∧
    registry.delegations = [⟨delegation, signature⟩] := by
  decide +kernel

end KeyCustody.Recorded
