import KeyCustody.Proofs.Ledger
import KeyCustody.Proofs.Signer
import KeyCustody.Registry

/-!
What a request to sign and a request for a new proxy key come to, case by case: the answer, the
events and the registry afterwards.
-/

set_option autoImplicit false

namespace KeyCustody.Registry

variable (S : Scheme)

def signingEvent (scope : Scope) (role : Role) (key : Bytes) : Event :=
  ⟨debug, "Signing", keyScope scope role key⟩

def unknownEvent (scope : Scope) (role : Role) (key : Bytes) : Event :=
  ⟨warning, "Sign request for " ++ role.refusalText, keyScope scope role key⟩

theorem sign_malformed (registry : Registry) (scope : Scope) (role : Role) (pubkey : Value)
    (message : Message) (fault : Fault) (refused : toPubkey pubkey = .error fault) :
    registry.sign S scope role pubkey message = registry.tell (.error fault) := by
  rw [sign, refused]

theorem sign_unknown (registry : Registry) (scope : Scope) (role : Role) (pubkey : Value)
    (message : Message) (key : Bytes) (read : toPubkey pubkey = .ok key)
    (absent : registry.signer? role key = none) :
    registry.sign S scope role pubkey message =
      ⟨.error (.refused ⟨role, key⟩), [unknownEvent scope role key], registry⟩ := by
  rw [sign, read]
  simp only [absent]
  rfl

theorem sign_known (registry : Registry) (scope : Scope) (role : Role) (pubkey : Value)
    (message : Message) (key : Bytes) (signer : Signer) (read : toPubkey pubkey = .ok key)
    (present : registry.signer? role key = some signer) :
    registry.sign S scope role pubkey message =
      ⟨signer.sign S registry.chain message, [signingEvent scope role key], registry⟩ := by
  rw [sign, read]
  simp only [present]
  rfl

theorem sign_keeps_registry (registry : Registry) (scope : Scope) (role : Role) (pubkey : Value)
    (message : Message) : (registry.sign S scope role pubkey message).registry = registry := by
  cases read : toPubkey pubkey with
  | error fault =>
      rw [sign_malformed S registry scope role pubkey message fault read]
      rfl
  | ok key =>
      cases found : registry.signer? role key with
      | none => rw [sign_unknown S registry scope role pubkey message key read found]
      | some signer => rw [sign_known S registry scope role pubkey message key signer read found]

theorem sign_answers (registry : Registry) (scope : Scope) (role : Role) (pubkey : Value)
    (message : Message) (signature : Bytes)
    (answered : (registry.sign S scope role pubkey message).answer = .ok signature) :
    ∃ key signer, toPubkey pubkey = .ok key ∧ registry.signer? role key = some signer ∧
      signer.sign S registry.chain message = .ok signature := by
  cases read : toPubkey pubkey with
  | error fault =>
      rw [sign_malformed S registry scope role pubkey message fault read] at answered
      cases answered
  | ok key =>
      cases found : registry.signer? role key with
      | none =>
          rw [sign_unknown S registry scope role pubkey message key read found] at answered
          cases answered
      | some signer =>
          rw [sign_known S registry scope role pubkey message key signer read found] at answered
          exact ⟨key, signer, rfl, found, answered⟩

theorem keep_stores (registry : Registry) (scope : Scope) (signer : Signer) (message : Delegation)
    (signature : Bytes) (sized : signature.length = signatureLength)
    (named : message.proxy = signer.pubkey) :
    registry.keep scope signer message signature =
      ⟨.ok ⟨message, signature⟩, (registry.addProxy scope ⟨signer, ⟨message, signature⟩⟩).events,
        (registry.addProxy scope ⟨signer, ⟨message, signature⟩⟩).registry⟩ := by
  have made := (signed_delegation_make_iff message signature ⟨message, signature⟩).mpr ⟨sized, rfl⟩
  have joined := (proxy_make_ok_iff signer ⟨message, signature⟩ _).mpr ⟨named, rfl⟩
  rw [keep, made]
  simp only [bind, Except.bind, joined]
  rfl

theorem keep_answers (registry : Registry) (scope : Scope) (signer : Signer) (message : Delegation)
    (signature : Bytes) :
    (signature.length = signatureLength ∧ message.proxy = signer.pubkey) ∨
      ∃ fault, registry.keep scope signer message signature = registry.tell (.error fault) := by
  cases made : SignedDelegation.make message signature with
  | error fault =>
      refine Or.inr ⟨fault, ?_⟩
      rw [keep, made]
      rfl
  | ok d =>
      obtain ⟨sized, rfl⟩ := (signed_delegation_make_iff message signature d).mp made
      by_cases named : message.proxy = signer.pubkey
      · exact Or.inl ⟨sized, named⟩
      · have refused : ProxySigner.make signer ⟨message, signature⟩ = .error .proxyMismatch := by
          rw [ProxySigner.make, if_pos named]
        refine Or.inr ⟨.proxyMismatch, ?_⟩
        rw [keep, made]
        simp only [bind, Except.bind, refused]

theorem create_proxy_malformed (registry : Registry) (scope : Scope) (entropy : Bytes)
    (delegator : Value) (fault : Fault) (refused : toPubkey delegator = .error fault) :
    registry.createProxy S scope entropy delegator = registry.tell (.error fault) := by
  rw [createProxy, refused]

theorem create_proxy_unminted (registry : Registry) (scope : Scope) (entropy : Bytes)
    (delegator : Value) (key : Bytes) (fault : Fault) (read : toPubkey delegator = .ok key)
    (failed : Signer.ofEntropy S entropy = .error fault) :
    registry.createProxy S scope entropy delegator = registry.tell (.error fault) := by
  rw [createProxy, read]
  simp only [failed, bind, Except.bind]

theorem create_proxy_unnamed (registry : Registry) (scope : Scope) (entropy : Bytes)
    (delegator : Value) (key : Bytes) (signer : Signer) (fault : Fault)
    (read : toPubkey delegator = .ok key) (made : Signer.ofEntropy S entropy = .ok signer)
    (failed : Delegation.make (.bytes key) (.bytes signer.pubkey) = .error fault) :
    registry.createProxy S scope entropy delegator = registry.tell (.error fault) := by
  rw [createProxy, read]
  simp only [made, failed, bind, Except.bind]

-- The request for the delegator's signature that minting a key makes.
def askDelegator (registry : Registry) (scope : Scope) (key : Bytes) (signer : Signer) :
    Outcome Bytes :=
  registry.sign S (delegatorScope scope key) .consensus (.bytes key)
    (.delegation ⟨key, signer.pubkey⟩)

theorem create_proxy_unsigned (registry : Registry) (scope : Scope) (entropy : Bytes)
    (delegator : Value) (key : Bytes) (signer : Signer) (fault : Fault)
    (read : toPubkey delegator = .ok key) (made : Signer.ofEntropy S entropy = .ok signer)
    (sized : signer.pubkey.length = pubkeyLength)
    (refused : (registry.askDelegator S scope key signer).answer = .error fault) :
    registry.createProxy S scope entropy delegator =
      ⟨.error fault, (registry.askDelegator S scope key signer).events, registry⟩ := by
  have named := (delegation_make_raw_iff key signer.pubkey ⟨key, signer.pubkey⟩).mpr
    ⟨to_pubkey_length delegator key read, sized, rfl⟩
  have kept := sign_keeps_registry S registry (delegatorScope scope key) .consensus (.bytes key)
    (.delegation ⟨key, signer.pubkey⟩)
  rw [askDelegator] at refused ⊢
  rw [createProxy, read]
  simp only [made, named, bind, Except.bind, pure, Except.pure, refused, kept]

theorem create_proxy_signed (registry : Registry) (scope : Scope) (entropy : Bytes)
    (delegator : Value) (key : Bytes) (signer : Signer) (signature : Bytes)
    (read : toPubkey delegator = .ok key) (made : Signer.ofEntropy S entropy = .ok signer)
    (sized : signer.pubkey.length = pubkeyLength)
    (signed : (registry.askDelegator S scope key signer).answer = .ok signature) :
    registry.createProxy S scope entropy delegator =
      after (registry.askDelegator S scope key signer).events
        (registry.keep (delegatorScope scope key) signer ⟨key, signer.pubkey⟩ signature) := by
  have named := (delegation_make_raw_iff key signer.pubkey ⟨key, signer.pubkey⟩).mpr
    ⟨to_pubkey_length delegator key read, sized, rfl⟩
  have kept := sign_keeps_registry S registry (delegatorScope scope key) .consensus (.bytes key)
    (.delegation ⟨key, signer.pubkey⟩)
  rw [askDelegator] at signed ⊢
  rw [createProxy, read]
  simp only [made, named, bind, Except.bind, pure, Except.pure, signed, kept]

-- All that a successful request for a proxy key rests on.
structure Minting (registry : Registry) (entropy : Bytes) (delegator : Value)
    (proxy : ProxySigner) : Prop where
  minted : Signer.ofEntropy S entropy = .ok proxy.signer
  sized : proxy.pubkey.length = pubkeyLength
  delegated : toPubkey delegator = .ok proxy.delegation.message.delegator
  named : proxy.delegation.message.proxy = proxy.pubkey
  signed : ∃ holder, registry.consensus.get? proxy.delegation.message.delegator = some holder ∧
    holder.sign S registry.chain (.delegation proxy.delegation.message) =
      .ok proxy.delegation.signature

theorem create_proxy_cases (registry : Registry) (scope : Scope) (entropy : Bytes)
    (delegator : Value) :
    (∃ fault, (registry.createProxy S scope entropy delegator).answer = .error fault ∧
      (registry.createProxy S scope entropy delegator).registry = registry) ∨
    (∃ proxy, Minting S registry entropy delegator proxy ∧
      (registry.createProxy S scope entropy delegator).answer = .ok proxy.delegation ∧
      (registry.createProxy S scope entropy delegator).registry =
        { registry with proxies := registry.proxies.put proxy.pubkey proxy }) := by
  cases read : toPubkey delegator with
  | error fault =>
      rw [create_proxy_malformed S registry scope entropy delegator fault read]
      exact Or.inl ⟨fault, rfl, rfl⟩
  | ok key =>
      cases made : Signer.ofEntropy S entropy with
      | error fault =>
          rw [create_proxy_unminted S registry scope entropy delegator key fault read made]
          exact Or.inl ⟨fault, rfl, rfl⟩
      | ok signer =>
          cases named : Delegation.make (.bytes key) (.bytes signer.pubkey) with
          | error fault =>
              rw [create_proxy_unnamed S registry scope entropy delegator key signer fault read
                made named]
              exact Or.inl ⟨fault, rfl, rfl⟩
          | ok message =>
              obtain ⟨_, sized, rfl⟩ := (delegation_make_raw_iff key signer.pubkey message).mp named
              cases answered : (registry.askDelegator S scope key signer).answer with
              | error fault =>
                  rw [create_proxy_unsigned S registry scope entropy delegator key signer fault
                    read made sized answered]
                  exact Or.inl ⟨fault, rfl, rfl⟩
              | ok signature =>
                  rw [create_proxy_signed S registry scope entropy delegator key signer signature
                    read made sized answered]
                  -- The key goes into the request as raw bytes, which read as themselves.
                  obtain ⟨asked, holder, readAgain, found, signed⟩ :=
                    sign_answers S registry _ .consensus _ _ signature answered
                  rw [to_pubkey_idempotent delegator key read] at readAgain
                  cases readAgain
                  rcases keep_answers registry (delegatorScope scope key) signer
                    ⟨key, signer.pubkey⟩ signature with ⟨length, same⟩ | ⟨fault, refused⟩
                  · rw [keep_stores registry (delegatorScope scope key) signer
                      ⟨key, signer.pubkey⟩ signature length same]
                    exact Or.inr ⟨⟨signer, ⟨⟨key, signer.pubkey⟩, signature⟩⟩,
                      ⟨made, sized, read, same, holder, found, signed⟩, rfl, rfl⟩
                  · rw [refused]
                    exact Or.inl ⟨fault, rfl, rfl⟩

end KeyCustody.Registry
