import KeyCustody.Proofs.Signatures

/-!
Exactly when a request by public key fails, in the order in which the reasons are looked for, and
that a request that fails changes nothing.
-/

set_option autoImplicit false

namespace KeyCustody.Registry

variable {S : Scheme}

def heldKeys (registry : Registry) : Role → List Bytes
  | .unspecified => []
  | .consensus => registry.consensus.keys
  | .proxy => registry.proxies.keys

theorem signer_held_iff (registry : Registry) (role : Role) (key : Bytes) :
    (∃ signer, registry.signer? role key = some signer) ↔ key ∈ registry.heldKeys role := by
  cases role with
  | unspecified => simp [signer?, heldKeys]
  | consensus => exact registry.consensus.get_is_some_iff key
  | proxy =>
      rw [heldKeys, ← registry.proxies.get_is_some_iff key]
      constructor
      · rintro ⟨signer, found⟩
        obtain ⟨proxy, stored, _⟩ := (proxy_signer_iff registry key signer).mp found
        exact ⟨proxy, stored⟩
      · rintro ⟨proxy, stored⟩
        exact ⟨proxy.signer, (proxy_signer_iff registry key proxy.signer).mpr ⟨proxy, stored, rfl⟩⟩

theorem signer_absent_iff (registry : Registry) (role : Role) (key : Bytes) :
    registry.signer? role key = none ↔ key ∉ registry.heldKeys role := by
  rw [← signer_held_iff]
  cases registry.signer? role key <;> simp

-- The key is read first, and only a key that can be read is looked up.
inductive LookupFails (registry : Registry) (role : Role) (pubkey : Value) : Fault → Prop
  | malformed (cause : BytesFault) (refused : toPubkey pubkey = .error (.pubkey cause)) :
      LookupFails registry role pubkey (.pubkey cause)
  | unknown (key : Bytes) (read : toPubkey pubkey = .ok key)
      (absent : key ∉ registry.heldKeys role) :
      LookupFails registry role pubkey (.refused ⟨role, key⟩)

-- The message comes last: its own fault, then the size of its root.
inductive SignFails (registry : Registry) (role : Role) (pubkey : Value) (message : Message) :
    Fault → Prop
  | lookup (fault : Fault) (failed : LookupFails registry role pubkey fault) :
      SignFails registry role pubkey message fault
  | rootless (key : Bytes) (fault : Fault) (read : toPubkey pubkey = .ok key)
      (held : key ∈ registry.heldKeys role) (failed : message.treeRoot = .error fault) :
      SignFails registry role pubkey message fault
  | misshapen (key root : Bytes) (read : toPubkey pubkey = .ok key)
      (held : key ∈ registry.heldKeys role) (rooted : message.treeRoot = .ok root)
      (size : root.length ≠ 32) :
      SignFails registry role pubkey message (.chunkLength root.length)

theorem lookup_verdict (registry : Registry) (role : Role) (pubkey : Value) :
    (∃ fault, LookupFails registry role pubkey fault) ∨
      ∃ key, toPubkey pubkey = .ok key ∧ key ∈ registry.heldKeys role := by
  cases read : toPubkey pubkey with
  | error fault =>
      obtain ⟨cause, rfl⟩ := to_pubkey_fault pubkey fault read
      exact Or.inl ⟨_, .malformed cause read⟩
  | ok key =>
      by_cases held : key ∈ registry.heldKeys role
      · exact Or.inr ⟨key, rfl, held⟩
      · exact Or.inl ⟨_, .unknown key read held⟩

-- An answer is settled once each failure is shown to happen and every other case to succeed.
theorem error_iff_of_verdict {α : Type} (answer : Except Fault α) (fails : Fault → Prop)
    (happens : ∀ fault, fails fault → answer = .error fault)
    (verdict : (∃ fault, fails fault) ∨ ∃ value, answer = .ok value) (fault : Fault) :
    answer = .error fault ↔ fails fault := by
  constructor
  · intro failed
    rcases verdict with ⟨other, reason⟩ | ⟨value, answered⟩
    · have same := (happens other reason).symm.trans failed
      cases same
      exact reason
    · rw [answered] at failed
      cases failed
  · exact happens fault

/-! ## Signing -/

theorem sign_lookup_fails (registry : Registry) (scope : Scope) (role : Role) (pubkey : Value)
    (message : Message) (fault : Fault) (failed : LookupFails registry role pubkey fault) :
    (registry.sign S scope role pubkey message).answer = .error fault := by
  cases failed with
  | malformed cause refused =>
      rw [sign_malformed S registry scope role pubkey message _ refused]
      rfl
  | unknown key read absent =>
      rw [sign_unknown S registry scope role pubkey message key read
        ((signer_absent_iff registry role key).mpr absent)]

theorem sign_held (registry : Registry) (consistent : registry.Consistent S) (scope : Scope)
    (role : Role) (pubkey : Value) (message : Message) (key : Bytes)
    (read : toPubkey pubkey = .ok key) (held : key ∈ registry.heldKeys role) :
    ∃ secret, S.derive secret = some key ∧
      (registry.sign S scope role pubkey message).answer =
        S.signMessage registry.chain secret message := by
  obtain ⟨signer, found⟩ := (signer_held_iff registry role key).mpr held
  obtain ⟨rfl, made⟩ := signer_belongs registry consistent role key signer found
  obtain ⟨secret, _, derived, same⟩ := Signer.made_signs signer made registry.chain message
  refine ⟨secret, derived, ?_⟩
  rw [sign_known S registry scope role pubkey message _ signer read found, same]

theorem sign_fails (registry : Registry) (consistent : registry.Consistent S) (scope : Scope)
    (role : Role) (pubkey : Value) (message : Message) (fault : Fault)
    (failed : SignFails registry role pubkey message fault) :
    (registry.sign S scope role pubkey message).answer = .error fault := by
  cases failed with
  | lookup _ failed => exact sign_lookup_fails registry scope role pubkey message fault failed
  | rootless key _ read held failed =>
      obtain ⟨secret, _, same⟩ :=
        sign_held registry consistent scope role pubkey message key read held
      rw [same]
      exact sign_message_rootless _ secret message fault
        (message_signing_root_rootless _ message fault failed)
  | misshapen key root read held rooted size =>
      obtain ⟨secret, _, same⟩ :=
        sign_held registry consistent scope role pubkey message key read held
      rw [same]
      exact sign_message_rootless _ secret message _
        (message_signing_root_misshapen _ message root rooted size)

theorem sign_succeeds (keyed : S.Keyed) (signing : S.Signing) (registry : Registry)
    (consistent : registry.Consistent S) (scope : Scope) (role : Role) (pubkey : Value)
    (message : Message) (key root : Bytes) (read : toPubkey pubkey = .ok key)
    (held : key ∈ registry.heldKeys role) (rooted : message.treeRoot = .ok root)
    (size : root.length = 32) :
    ∃ signature, (registry.sign S scope role pubkey message).answer = .ok signature ∧
      signature.length = signatureLength := by
  obtain ⟨secret, derived, same⟩ :=
    sign_held registry consistent scope role pubkey message key read held
  obtain ⟨node, found, _⟩ := message_signing_root_exists registry.chain message root rooted size
  rw [same]
  exact secret_signs keyed signing registry.chain secret key message node derived found

theorem sign_verdict (keyed : S.Keyed) (signing : S.Signing) (registry : Registry)
    (consistent : registry.Consistent S) (scope : Scope) (role : Role) (pubkey : Value)
    (message : Message) :
    (∃ fault, SignFails registry role pubkey message fault) ∨
      ∃ signature, (registry.sign S scope role pubkey message).answer = .ok signature := by
  rcases lookup_verdict registry role pubkey with ⟨fault, failed⟩ | ⟨key, read, held⟩
  · exact Or.inl ⟨fault, .lookup fault failed⟩
  · cases rooted : message.treeRoot with
    | error fault => exact Or.inl ⟨fault, .rootless key fault read held rooted⟩
    | ok root =>
        by_cases size : root.length = 32
        · obtain ⟨signature, answered, _⟩ := sign_succeeds keyed signing registry consistent scope
            role pubkey message key root read held rooted size
          exact Or.inr ⟨signature, answered⟩
        · exact Or.inl ⟨_, .misshapen key root read held rooted size⟩

/-! ## Minting -/

theorem create_proxy_fails (keyed : S.Keyed) (signing : S.Signing) (registry : Registry)
    (scope : Scope) (entropy : Bytes) (delegator : Value) (fault : Fault)
    (failed : LookupFails registry .consensus delegator fault) :
    (registry.createProxy S scope entropy delegator).answer = .error fault := by
  cases failed with
  | malformed cause refused =>
      rw [create_proxy_malformed S registry scope entropy delegator _ refused]
      rfl
  | unknown key read absent =>
      -- The new key is made before the delegator is looked up, and is then dropped.
      obtain ⟨signer, made⟩ := Signer.of_entropy_exists keyed signing entropy
      have sized := Signer.made_length keyed signer (Signer.of_entropy_made entropy signer made)
      have asked : (registry.askDelegator S scope key signer).answer =
          .error (.refused ⟨.consensus, key⟩) :=
        sign_lookup_fails registry _ .consensus (.bytes key) _ _
          (.unknown key (to_pubkey_idempotent delegator key read) absent)
      rw [create_proxy_unsigned S registry scope entropy delegator key signer _ read made sized
        asked]

theorem create_proxy_succeeds (keyed : S.Keyed) (signing : S.Signing) (registry : Registry)
    (consistent : registry.Consistent S) (scope : Scope) (entropy : Bytes) (delegator : Value)
    (key : Bytes) (read : toPubkey delegator = .ok key) (held : key ∈ registry.consensus.keys) :
    ∃ d, (registry.createProxy S scope entropy delegator).answer = .ok d := by
  obtain ⟨signer, made⟩ := Signer.of_entropy_exists keyed signing entropy
  have sized := Signer.made_length keyed signer (Signer.of_entropy_made entropy signer made)
  obtain ⟨root, rooted, size⟩ := delegation_root_exists ⟨key, signer.pubkey⟩
  obtain ⟨signature, asked, length⟩ := sign_succeeds keyed signing registry consistent
    (delegatorScope scope key) .consensus (.bytes key) (.delegation ⟨key, signer.pubkey⟩) key root
    (to_pubkey_idempotent delegator key read) held rooted size
  -- The delegation and the proxy are checked once more, and both checks pass by construction.
  refine ⟨⟨⟨key, signer.pubkey⟩, signature⟩, ?_⟩
  rw [create_proxy_signed S registry scope entropy delegator key signer signature read made sized
    asked, keep_stores registry _ signer ⟨key, signer.pubkey⟩ signature length rfl]
  rfl

theorem create_proxy_fails_iff (keyed : S.Keyed) (signing : S.Signing) (registry : Registry)
    (consistent : registry.Consistent S) (scope : Scope) (entropy : Bytes) (delegator : Value)
    (fault : Fault) :
    (registry.createProxy S scope entropy delegator).answer = .error fault ↔
      LookupFails registry .consensus delegator fault := by
  apply error_iff_of_verdict _ (LookupFails registry .consensus delegator)
  · exact create_proxy_fails keyed signing registry scope entropy delegator
  · rcases lookup_verdict registry .consensus delegator with failed | ⟨key, read, held⟩
    · exact Or.inl failed
    · exact Or.inr (create_proxy_succeeds keyed signing registry consistent scope entropy delegator
        key read held)

/-! ## Queries -/

theorem get_delegation_fails_iff (registry : Registry) (pubkey : Value) (fault : Fault) :
    registry.getDelegation pubkey = .error fault ↔ LookupFails registry .proxy pubkey fault := by
  apply error_iff_of_verdict _ (LookupFails registry .proxy pubkey)
  · intro reason failed
    cases failed with
    | malformed cause refused =>
        rw [getDelegation, refused]
        rfl
    | unknown key read absent =>
        have missing := (registry.proxies.get_none_iff key).mpr absent
        rw [getDelegation, read]
        simp only [bind, Except.bind, missing]
        rfl
  · rcases lookup_verdict registry .proxy pubkey with failed | ⟨key, read, held⟩
    · exact Or.inl failed
    · obtain ⟨proxy, stored⟩ := (registry.proxies.get_is_some_iff key).mpr held
      exact Or.inr ⟨proxy.delegation,
        (get_delegation_iff registry pubkey _).mpr ⟨key, proxy, read, stored, rfl⟩⟩

/-! ## A failed move changes nothing -/

theorem failed_effect_keeps_registry (registry : Registry) (write : Option Write)
    (outcome : Outcome Reply) (effect : Effect S registry write outcome) (fault : Fault)
    (failed : outcome.answer = .error fault) : outcome.registry = registry := by
  cases effect with
  | nothing => rfl
  | consensus => cases failed
  | proxy => cases failed

theorem failed_move_keeps_registry (registry : Registry) (move : Move) (fault : Fault)
    (failed : (registry.perform S move).answer = .error fault) :
    registry.next S move = registry :=
  failed_effect_keeps_registry registry _ _ (perform_effect S registry move) fault failed

theorem failed_request_keeps_session (session : Session) (request : Request) (fault : Fault)
    (failed : (session.serve S request).2.answer = .error fault) :
    (session.serve S request).1 = session := by
  cases request with
  | createProxy entropy delegator =>
      change (session.registry.createProxy S session.scope entropy delegator).answer.map _ = _
        at failed
      rw [map_error_iff] at failed
      rcases create_proxy_cases S session.registry session.scope entropy delegator with
        ⟨_, _, same⟩ | ⟨proxy, _, answered, _⟩
      · rw [Session.serve, Session.settle, same]
      · rw [answered] at failed
        cases failed
  | sign role pubkey message =>
      rw [Session.serve, Session.settle, sign_keeps_registry]

structure FailsExactly (S : Scheme) (registry : Registry) (scope : Scope) (pubkey : Value) :
    Prop where
  malformed : ∀ fault, toPubkey pubkey = .error fault → ∃ cause, fault = .pubkey cause
  signFails : ∀ role message fault,
    (registry.sign S scope role pubkey message).answer = .error fault ↔
      SignFails registry role pubkey message fault
  signAnswers : ∀ role message key root, toPubkey pubkey = .ok key →
    key ∈ registry.heldKeys role → message.treeRoot = .ok root → root.length = 32 →
    ∃ signature, (registry.sign S scope role pubkey message).answer = .ok signature
  createFails : ∀ entropy fault,
    (registry.createProxy S scope entropy pubkey).answer = .error fault ↔
      LookupFails registry .consensus pubkey fault
  createAnswers : ∀ entropy key, toPubkey pubkey = .ok key → key ∈ registry.consensus.keys →
    ∃ d, (registry.createProxy S scope entropy pubkey).answer = .ok d
  getFails : ∀ fault, registry.getDelegation pubkey = .error fault ↔
    LookupFails registry .proxy pubkey fault
  hasConsensusFails : ∀ fault, registry.hasConsensus pubkey = .error fault ↔
    toPubkey pubkey = .error fault
  hasProxyFails : ∀ fault, registry.hasProxy pubkey = .error fault ↔
    toPubkey pubkey = .error fault

theorem consistent_fails_exactly (keyed : S.Keyed) (signing : S.Signing) (registry : Registry)
    (consistent : registry.Consistent S) (scope : Scope) (pubkey : Value) :
    FailsExactly S registry scope pubkey where
  malformed := to_pubkey_fault pubkey
  signFails role message := error_iff_of_verdict _ (SignFails registry role pubkey message)
    (sign_fails registry consistent scope role pubkey message)
    (sign_verdict keyed signing registry consistent scope role pubkey message)
  signAnswers role message key root read held rooted size := by
    obtain ⟨signature, answered, _⟩ := sign_succeeds keyed signing registry consistent scope role
      pubkey message key root read held rooted size
    exact ⟨signature, answered⟩
  createFails entropy := create_proxy_fails_iff keyed signing registry consistent scope entropy
    pubkey
  createAnswers entropy := create_proxy_succeeds keyed signing registry consistent scope entropy
    pubkey
  getFails := get_delegation_fails_iff registry pubkey
  hasConsensusFails fault := map_error_iff (toPubkey pubkey) _ fault
  hasProxyFails fault := map_error_iff (toPubkey pubkey) _ fault

theorem reachable_requests_fail_exactly (keyed : S.Keyed) (signing : S.Signing) (chain : Chain)
    (registry : Registry) (reached : Reachable S chain registry) :
    (∀ scope pubkey, FailsExactly S registry scope pubkey) ∧
    (∀ move fault, (registry.perform S move).answer = .error fault →
      registry.next S move = registry) ∧
    (∀ (session : Session) request fault, (session.serve S request).2.answer = .error fault →
      (session.serve S request).1 = session) :=
  ⟨consistent_fails_exactly keyed signing registry (reachable_consistent chain registry reached),
    failed_move_keeps_registry registry, failed_request_keeps_session⟩

theorem recorded_requests_fail_exactly :
    (Recorded.registry.sign Recorded.scheme .empty .consensus (.buffer Recorded.proxyKey)
      (.root [0])).answer = .error (.refused ⟨.consensus, Recorded.proxyKey⟩) ∧
    (Recorded.registry.sign Recorded.scheme .empty .proxy (.buffer Recorded.proxyKey)
      (.root [0])).answer = .error (.chunkLength 1) ∧
    ∃ d, (Recorded.registry.createProxy Recorded.scheme .empty Recorded.entropy
      (.buffer Recorded.holderKey)).answer = .ok d := by
  obtain ⟨exactly, _⟩ := reachable_requests_fail_exactly Recorded.keyed Recorded.signing .mainnet
    Recorded.registry ⟨_, rfl⟩
  have holderRead : toPubkey (.buffer Recorded.holderKey) = .ok Recorded.holderKey :=
    to_pubkey_raw Recorded.holderKey (Bytes.length_big_endian _ _)
  have proxyRead : toPubkey (.buffer Recorded.proxyKey) = .ok Recorded.proxyKey :=
    to_pubkey_raw Recorded.proxyKey (Bytes.length_big_endian _ _)
  have absent : Recorded.proxyKey ∉ Recorded.registry.heldKeys .consensus := by decide +kernel
  have held : Recorded.proxyKey ∈ Recorded.registry.heldKeys .proxy := by decide +kernel
  have holder : Recorded.holderKey ∈ Recorded.registry.consensus.keys := by decide +kernel
  refine ⟨?_, ?_, ?_⟩
  · exact ((exactly .empty _).signFails .consensus (.root [0]) _).mpr
      (.lookup _ (.unknown _ proxyRead absent))
  · exact ((exactly .empty _).signFails .proxy (.root [0]) _).mpr
      (.misshapen _ [0] proxyRead held rfl (by decide))
  · exact (exactly .empty _).createAnswers Recorded.entropy _ holderRead holder

end KeyCustody.Registry
