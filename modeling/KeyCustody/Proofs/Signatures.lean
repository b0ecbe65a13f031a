import KeyCustody.Proofs.Representation

/-!
Signatures that a reachable registry gives out: each comes from the secret stored under the key that
was asked for, and verifies under that key, for that message, on the registry's chain.
-/

set_option autoImplicit false

namespace KeyCustody.Registry

variable {S : Scheme}

theorem proxy_signer_iff (registry : Registry) (key : Bytes) (signer : Signer) :
    registry.signer? .proxy key = some signer ↔
      ∃ proxy, registry.proxies.get? key = some proxy ∧ proxy.signer = signer := by
  rw [signer?, Option.map_eq_some_iff]

theorem signer_belongs (registry : Registry) (consistent : registry.Consistent S) (role : Role)
    (key : Bytes) (signer : Signer) (found : registry.signer? role key = some signer) :
    signer.pubkey = key ∧ signer.Made S := by
  cases role with
  | unspecified => cases found
  | consensus => exact consistent.consensus_signer registry key signer found
  | proxy =>
      obtain ⟨proxy, stored, rfl⟩ := (proxy_signer_iff registry key signer).mp found
      obtain ⟨named, made, _⟩ := consistent.proxy_signer registry key proxy stored
      exact ⟨named, made⟩

-- One argument serves both registers: whatever signer is stored under a key derives that key.
theorem signature_belongs (honest : S.Honest) (registry : Registry)
    (consistent : registry.Consistent S) (scope : Scope) (role : Role) (pubkey : Value)
    (message : Message) (signature : Bytes)
    (answered : (registry.sign S scope role pubkey message).answer = .ok signature) :
    ∃ key signer secret, toPubkey pubkey = .ok key ∧ registry.signer? role key = some signer ∧
      signer.backend = .plain secret ∧
      S.signMessage registry.chain secret message = .ok signature ∧
      S.verifyMessage registry.chain (.bytes key) message (.bytes signature) = .ok true := by
  obtain ⟨key, signer, read, found, signed⟩ :=
    sign_answers S registry scope role pubkey message signature answered
  obtain ⟨rfl, made⟩ := signer_belongs registry consistent role key signer found
  obtain ⟨secret, plain, derived, same⟩ := Signer.made_signs signer made registry.chain message
  rw [same] at signed
  exact ⟨signer.pubkey, signer, secret, read, found, plain, signed,
    signed_message_verifies honest registry.chain secret signer.pubkey message signature derived
      signed⟩

theorem given_signature_verifies (honest : S.Honest) (chain : Chain) (registry : Registry)
    (reached : Reachable S chain registry) (scope : Scope) (pubkey : Value) (message : Message)
    (signature : Bytes) :
    registry.chain = chain ∧
    ((registry.sign S scope .consensus pubkey message).answer = .ok signature →
      ∃ key signer secret, toPubkey pubkey = .ok key ∧
        registry.consensus.get? key = some signer ∧ signer.backend = .plain secret ∧
        S.signMessage chain secret message = .ok signature ∧
        S.verifyMessage chain (.bytes key) message (.bytes signature) = .ok true) ∧
    ((registry.sign S scope .proxy pubkey message).answer = .ok signature →
      ∃ key proxy secret, toPubkey pubkey = .ok key ∧
        registry.proxies.get? key = some proxy ∧ proxy.signer.backend = .plain secret ∧
        S.signMessage chain secret message = .ok signature ∧
        S.verifyMessage chain (.bytes key) message (.bytes signature) = .ok true) := by
  have consistent := reachable_consistent chain registry reached
  have sameChain := reachable_chain chain registry reached
  rw [← sameChain]
  refine ⟨rfl, ?_, ?_⟩
  · intro answered
    exact signature_belongs honest registry consistent scope .consensus pubkey message signature
      answered
  · intro answered
    obtain ⟨key, signer, secret, read, found, plain, signed, verified⟩ :=
      signature_belongs honest registry consistent scope .proxy pubkey message signature answered
    obtain ⟨proxy, stored, rfl⟩ := (proxy_signer_iff registry key signer).mp found
    exact ⟨key, proxy, secret, read, stored, plain, signed, verified⟩

theorem recorded_signature_verifies :
    (Recorded.registry.sign Recorded.scheme .empty .consensus (.buffer Recorded.holderKey)
      (.delegation Recorded.delegation)).answer = .ok Recorded.signature ∧
    Recorded.scheme.verifyMessage .mainnet (.bytes Recorded.holderKey)
      (.delegation Recorded.delegation) (.bytes Recorded.signature) = .ok true := by
  have answered := ok_of_to_option (Recorded.registry.sign Recorded.scheme .empty .consensus
    (.buffer Recorded.holderKey) (.delegation Recorded.delegation)).answer Recorded.signature
    (by decide +kernel)
  obtain ⟨_, signs, _⟩ := given_signature_verifies Recorded.honest .mainnet Recorded.registry
    ⟨_, rfl⟩ .empty (.buffer Recorded.holderKey) (.delegation Recorded.delegation)
    Recorded.signature
  obtain ⟨key, signer, secret, read, _, _, _, verified⟩ := signs answered
  have same : toPubkey (.buffer Recorded.holderKey) = .ok Recorded.holderKey :=
    to_pubkey_raw Recorded.holderKey (Bytes.length_big_endian _ _)
  rw [same] at read
  cases read
  exact ⟨answered, verified⟩

end KeyCustody.Registry
