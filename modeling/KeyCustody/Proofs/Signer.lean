import KeyCustody.Proofs.Pubkey
import KeyCustody.Proofs.SigningRoot
import KeyCustody.Signer

/-!
Signers hold the secret of the key that they show, whichever way they were made, and what they sign
verifies under that key.
-/

set_option autoImplicit false

namespace KeyCustody

variable {S : Scheme}

theorem pubkey_of_iff (secret : Int) (key : Bytes) :
    S.pubkeyOf secret = .ok key ↔ S.derive secret = some key := by
  rw [Scheme.pubkeyOf]
  cases S.derive secret with
  | none => simp
  | some derived => simp

theorem sign_message_iff (chain : Chain) (secret : Int) (message : Message) (signature : Bytes) :
    S.signMessage chain secret message = .ok signature ↔
      ∃ node, messageSigningRoot chain message = .ok node ∧
        S.sign secret node = some signature := by
  rw [Scheme.signMessage, bind_ok_iff]
  apply exists_congr
  intro node
  apply and_congr_right
  intro _
  cases S.sign secret node with
  | none => simp
  | some answered => simp

-- A message without a signing root fails with its own fault, before the secret is looked at.
theorem sign_message_rootless (chain : Chain) (secret : Int) (message : Message) (fault : Fault)
    (rootless : messageSigningRoot chain message = .error fault) :
    S.signMessage chain secret message = .error fault := by
  rw [Scheme.signMessage, rootless]
  rfl

theorem signed_message_verifies (honest : S.Honest) (chain : Chain) (secret : Int) (key : Bytes)
    (message : Message) (signature : Bytes) (derived : S.derive secret = some key)
    (signed : S.signMessage chain secret message = .ok signature) :
    S.verifyMessage chain (.bytes key) message (.bytes signature) = .ok true := by
  obtain ⟨node, found, answered⟩ := (sign_message_iff chain secret message signature).mp signed
  have size : node.length = 32 := message_signing_root_length chain message node found
  have verified := honest.verify_sign secret key node signature size derived answered
  rw [Scheme.verifyMessage, found]
  exact congrArg Except.ok verified

theorem secret_in_range (keyed : S.Keyed) (secret : Int) (key : Bytes)
    (derived : S.derive secret = some key) : 0 < secret ∧ secret < S.order :=
  (keyed.derive_isSome secret).mp (by rw [derived]; rfl)

theorem secret_signs (keyed : S.Keyed) (signing : S.Signing) (chain : Chain) (secret : Int)
    (key : Bytes) (message : Message) (node : Bytes) (derived : S.derive secret = some key)
    (found : messageSigningRoot chain message = .ok node) :
    ∃ signature, S.signMessage chain secret message = .ok signature ∧
      signature.length = signatureLength := by
  have answers := (signing.sign_isSome secret node).mpr (secret_in_range keyed secret key derived)
  obtain ⟨signature, answered⟩ := Option.isSome_iff_exists.mp answers
  exact ⟨signature, (sign_message_iff chain secret message signature).mpr ⟨node, found, answered⟩,
    signing.length_sign secret node signature answered⟩

namespace Signer

def Made (S : Scheme) (signer : Signer) : Prop :=
  ∃ secret, signer.backend = .plain secret ∧ S.derive secret = some signer.pubkey

theorem make_made (backend : Backend) (signer : Signer) (made : make S backend = .ok signer) :
    signer.Made S := by
  cases backend with
  | foreign value => cases made
  | plain secret =>
      rw [make, map_ok_iff] at made
      obtain ⟨key, derived, rfl⟩ := made
      exact ⟨secret, rfl, (pubkey_of_iff secret key).mp derived⟩

theorem of_entropy_made (entropy : Bytes) (signer : Signer)
    (made : ofEntropy S entropy = .ok signer) : signer.Made S :=
  make_made _ signer made

theorem of_bytes_made (data : Bytes) (signer : Signer) (made : ofBytes S data = .ok signer) :
    signer.Made S := by
  rw [ofBytes, bind_ok_iff] at made
  obtain ⟨secret, _, made⟩ := made
  exact make_made (.plain secret) signer made

theorem of_entropy_exists (keyed : S.Keyed) (signing : S.Signing) (entropy : Bytes) :
    ∃ signer, ofEntropy S entropy = .ok signer := by
  have positive : (0 : Int) < S.generate entropy := Int.ofNat_lt.mpr (signing.generate_pos entropy)
  have bounded : (S.generate entropy : Int) < S.order :=
    Int.ofNat_lt.mpr (signing.generate_lt entropy)
  have answers := (keyed.derive_isSome _).mpr ⟨positive, bounded⟩
  obtain ⟨key, derived⟩ := Option.isSome_iff_exists.mp answers
  refine ⟨⟨.plain (S.generate entropy), key⟩, ?_⟩
  rw [ofEntropy, make, (pubkey_of_iff _ key).mpr derived]
  rfl

theorem made_length (keyed : S.Keyed) (signer : Signer) (made : signer.Made S) :
    signer.pubkey.length = pubkeyLength := by
  obtain ⟨secret, _, derived⟩ := made
  exact keyed.length_derive secret signer.pubkey derived

theorem made_signs (signer : Signer) (made : signer.Made S) (chain : Chain) (message : Message) :
    ∃ secret, signer.backend = .plain secret ∧ S.derive secret = some signer.pubkey ∧
      signer.sign S chain message = S.signMessage chain secret message := by
  obtain ⟨secret, plain, derived⟩ := made
  refine ⟨secret, plain, derived, ?_⟩
  rw [sign, plain]

end Signer

-- A proxy is a signer together with a delegation to the signer's own key.
theorem proxy_make_ok_iff (signer : Signer) (delegation : SignedDelegation)
    (proxy : ProxySigner) :
    ProxySigner.make signer delegation = .ok proxy ↔
      delegation.message.proxy = signer.pubkey ∧ proxy = ⟨signer, delegation⟩ := by
  rw [ProxySigner.make]
  by_cases named : delegation.message.proxy = signer.pubkey
  · simp [named, eq_comm]
  · simp [named]

end KeyCustody
