import KeyCustody.Proofs.Refusals

/-!
What can be seen of a registry without its secrets: the chain, the keys in order, and the
delegations, with their signatures told by length only. Registries that look alike answer alike,
report the same events and go on looking alike.
-/

set_option autoImplicit false

namespace KeyCustody

-- A signature of which only the length is told.
def hidden (signature : Bytes) : Bytes := Bytes.zeros signature.length

def SignedDelegation.redacted (d : SignedDelegation) : SignedDelegation :=
  ⟨d.message, hidden d.signature⟩

theorem hidden_hidden (signature : Bytes) : hidden (hidden signature) = hidden signature := by
  rw [hidden, hidden, Bytes.length_zeros]

theorem hidden_of_length (first second : Bytes) (length : first.length = second.length) :
    hidden first = hidden second := by
  rw [hidden, hidden, length]

theorem redacted_redacted (d : SignedDelegation) : d.redacted.redacted = d.redacted := by
  rw [SignedDelegation.redacted, SignedDelegation.redacted, hidden_hidden]

namespace Ledger

variable {α β : Type}

def mapValues (f : α → β) (ledger : Ledger α) : Ledger β :=
  ledger.map fun entry => (entry.1, f entry.2)

theorem keys_map_values (f : α → β) (ledger : Ledger α) :
    (ledger.mapValues f).keys = ledger.keys := by
  rw [keys, keys, mapValues, List.map_map]
  rfl

theorem get_map_values (f : α → β) (ledger : Ledger α) (key : Bytes) :
    (ledger.mapValues f).get? key = (ledger.get? key).map f := by
  induction ledger with
  | nil => rfl
  | cons entry rest ih =>
      obtain ⟨k, value⟩ := entry
      by_cases here : k = key
      · simp only [mapValues, List.map_cons, get?, if_pos here, Option.map_some]
      · simpa only [mapValues, List.map_cons, get?, if_neg here] using ih

theorem map_values_put (f : α → β) (ledger : Ledger α) (key : Bytes) (value : α) :
    (ledger.put key value).mapValues f = (ledger.mapValues f).put key (f value) := by
  induction ledger with
  | nil => rfl
  | cons entry rest ih =>
      obtain ⟨k, old⟩ := entry
      by_cases here : k = key
      · simp only [put, mapValues, List.map_cons, if_pos here]
      · simp only [put, mapValues, List.map_cons, if_neg here] at ih ⊢
        rw [ih]

theorem has_of_keys (first : Ledger α) (second : Ledger β) (same : first.keys = second.keys)
    (key : Bytes) : first.has key = second.has key := by
  rw [Bool.eq_iff_iff, has_iff_mem_keys, has_iff_mem_keys, same]

end Ledger

structure RegistryView where
  chain : Chain
  consensus : List Bytes
  proxies : Ledger SignedDelegation

def Registry.view (registry : Registry) : RegistryView :=
  ⟨registry.chain, registry.consensus.keys,
    registry.proxies.mapValues fun proxy => proxy.delegation.redacted⟩

-- An outcome without what its answer hides.
def Outcome.seen {α : Type} (hide : α → α) (outcome : Outcome α) :
    Except Fault α × List Event × RegistryView :=
  (outcome.answer.map hide, outcome.events, outcome.registry.view)

namespace Registry

theorem view_eq_iff (a b : Registry) :
    a.view = b.view ↔ a.chain = b.chain ∧ a.consensus.keys = b.consensus.keys ∧
      a.proxies.mapValues (fun proxy => proxy.delegation.redacted) =
        b.proxies.mapValues fun proxy => proxy.delegation.redacted := by
  rw [view, view, RegistryView.mk.injEq]

theorem view_proxy_keys (registry : Registry) :
    registry.view.proxies.keys = registry.proxies.keys := by
  rw [view, Ledger.keys_map_values]

theorem held_keys_seen (a b : Registry) (same : a.view = b.view) (role : Role) :
    a.heldKeys role = b.heldKeys role := by
  cases role with
  | unspecified => rfl
  | consensus => exact congrArg RegistryView.consensus same
  | proxy =>
      rw [heldKeys, heldKeys, ← view_proxy_keys, ← view_proxy_keys, same]

theorem proxy_seen (a b : Registry) (same : a.view = b.view) (key : Bytes) :
    (a.proxies.get? key).map (·.delegation.redacted) =
      (b.proxies.get? key).map (·.delegation.redacted) := by
  rw [← Ledger.get_map_values, ← Ledger.get_map_values]
  exact congrArg (fun view => view.proxies.get? key) same

theorem tell_seen {α : Type} (hide : α → α) (a b : Registry) (same : a.view = b.view)
    (answer : Except Fault α) : (a.tell answer).seen hide = (b.tell answer).seen hide := by
  rw [tell, tell, Outcome.seen, Outcome.seen, same]

/-! ## Registration -/

theorem add_consensus_seen (a b : Registry) (same : a.view = b.view) (scope : Scope)
    (signer other : Signer) (keys : signer.pubkey = other.pubkey) :
    (a.addConsensus scope signer).seen id = (b.addConsensus scope other).seen id := by
  obtain ⟨chain, held, proxies⟩ := (view_eq_iff a b).mp same
  simp only [Outcome.seen, addConsensus, view, Ledger.keys_put, keys, held, chain, proxies,
    Ledger.has_of_keys a.consensus b.consensus held]

theorem add_proxy_seen (a b : Registry) (same : a.view = b.view) (scope : Scope)
    (proxy other : ProxySigner) (keys : proxy.pubkey = other.pubkey)
    (delegations : proxy.delegation.redacted = other.delegation.redacted) :
    (a.addProxy scope proxy).seen id = (b.addProxy scope other).seen id := by
  obtain ⟨chain, held, proxies⟩ := (view_eq_iff a b).mp same
  have messages : proxy.delegation.message = other.delegation.message :=
    congrArg (fun d => d.message) delegations
  simp only [Outcome.seen, addProxy, view, Ledger.map_values_put, messages, keys, held, chain,
    proxies, delegations]

/-! ## Signing -/

variable {S : Scheme}

-- What a message does not decide on its own is decided by secrets in range, which all sign.
theorem made_sign_hidden (keyed : S.Keyed) (signing : S.Signing) (signer other : Signer)
    (made : signer.Made S) (otherMade : other.Made S) (chain : Chain) (message : Message) :
    (signer.sign S chain message).map hidden = (other.sign S chain message).map hidden := by
  obtain ⟨secret, _, derived, signs⟩ := Signer.made_signs signer made chain message
  obtain ⟨otherSecret, _, otherDerived, otherSigns⟩ :=
    Signer.made_signs other otherMade chain message
  rw [signs, otherSigns]
  cases found : messageSigningRoot chain message with
  | error fault =>
      rw [sign_message_rootless chain secret message fault found,
        sign_message_rootless chain otherSecret message fault found]
  | ok node =>
      obtain ⟨signature, signed, length⟩ :=
        secret_signs keyed signing chain secret _ message node derived found
      obtain ⟨otherSignature, otherSigned, otherLength⟩ :=
        secret_signs keyed signing chain otherSecret _ message node otherDerived found
      rw [signed, otherSigned]
      exact congrArg Except.ok
        (hidden_of_length signature otherSignature (length.trans otherLength.symm))

theorem sign_seen (keyed : S.Keyed) (signing : S.Signing) (a b : Registry)
    (aConsistent : a.Consistent S) (bConsistent : b.Consistent S) (same : a.view = b.view)
    (scope : Scope) (role : Role) (pubkey : Value) (message : Message) :
    (a.sign S scope role pubkey message).seen hidden =
      (b.sign S scope role pubkey message).seen hidden := by
  have held := held_keys_seen a b same role
  obtain ⟨chain, _, _⟩ := (view_eq_iff a b).mp same
  cases read : toPubkey pubkey with
  | error fault =>
      rw [sign_malformed S a scope role pubkey message fault read,
        sign_malformed S b scope role pubkey message fault read]
      exact tell_seen hidden a b same (.error fault)
  | ok key =>
      by_cases present : key ∈ a.heldKeys role
      · obtain ⟨signer, found⟩ := (signer_held_iff a role key).mpr present
        obtain ⟨other, otherFound⟩ := (signer_held_iff b role key).mpr (held ▸ present)
        have made := (signer_belongs a aConsistent role key signer found).2
        have otherMade := (signer_belongs b bConsistent role key other otherFound).2
        rw [sign_known S a scope role pubkey message key signer read found,
          sign_known S b scope role pubkey message key other read otherFound]
        simp only [Outcome.seen, chain, same,
          made_sign_hidden keyed signing signer other made otherMade]
      · have absent := (signer_absent_iff a role key).mpr present
        have otherAbsent := (signer_absent_iff b role key).mpr (held ▸ present)
        rw [sign_unknown S a scope role pubkey message key read absent,
          sign_unknown S b scope role pubkey message key read otherAbsent]
        simp only [Outcome.seen, same]

/-! ## Minting -/

theorem keep_seen (a b : Registry) (same : a.view = b.view) (scope : Scope)
    (signer other : Signer) (message : Delegation) (signature otherSignature : Bytes)
    (keys : signer.pubkey = other.pubkey) (named : message.proxy = signer.pubkey)
    (sized : signature.length = signatureLength)
    (otherSized : otherSignature.length = signatureLength) :
    (a.keep scope signer message signature).seen SignedDelegation.redacted =
      (b.keep scope other message otherSignature).seen SignedDelegation.redacted := by
  have delegations : (⟨message, signature⟩ : SignedDelegation).redacted =
      (⟨message, otherSignature⟩ : SignedDelegation).redacted :=
    congrArg (SignedDelegation.mk message)
      (hidden_of_length signature otherSignature (sized.trans otherSized.symm))
  have added := add_proxy_seen a b same scope ⟨signer, ⟨message, signature⟩⟩
    ⟨other, ⟨message, otherSignature⟩⟩ keys delegations
  obtain ⟨_, rest⟩ := Prod.mk.inj added
  obtain ⟨events, views⟩ := Prod.mk.inj rest
  rw [keep_stores a scope signer message signature sized named,
    keep_stores b scope other message otherSignature otherSized (named.trans keys)]
  simp only [Outcome.seen, Except.map, delegations, events, views]

theorem sign_length (signing : S.Signing) (registry : Registry)
    (consistent : registry.Consistent S) (scope : Scope) (role : Role) (pubkey : Value)
    (message : Message) (signature : Bytes)
    (answered : (registry.sign S scope role pubkey message).answer = .ok signature) :
    signature.length = signatureLength := by
  obtain ⟨key, signer, _, found, signed⟩ :=
    sign_answers S registry scope role pubkey message signature answered
  have made := (signer_belongs registry consistent role key signer found).2
  obtain ⟨secret, _, _, same⟩ := Signer.made_signs signer made registry.chain message
  rw [same] at signed
  obtain ⟨node, _, answer⟩ := (sign_message_iff _ secret message signature).mp signed
  exact signing.length_sign secret node signature answer

-- Both runs mint the same key, so both ask their delegators to sign the same message.
theorem create_proxy_seen (keyed : S.Keyed) (signing : S.Signing) (a b : Registry)
    (aConsistent : a.Consistent S) (bConsistent : b.Consistent S) (same : a.view = b.view)
    (scope : Scope) (entropy other : Bytes) (delegator : Value) (signer another : Signer)
    (made : Signer.ofEntropy S entropy = .ok signer)
    (otherMade : Signer.ofEntropy S other = .ok another) (keys : signer.pubkey = another.pubkey) :
    (a.createProxy S scope entropy delegator).seen SignedDelegation.redacted =
      (b.createProxy S scope other delegator).seen SignedDelegation.redacted := by
  cases read : toPubkey delegator with
  | error fault =>
      rw [create_proxy_malformed S a scope entropy delegator fault read,
        create_proxy_malformed S b scope other delegator fault read]
      exact tell_seen _ a b same (.error fault)
  | ok key =>
      have sized := Signer.made_length keyed signer (Signer.of_entropy_made entropy signer made)
      have asked : (a.askDelegator S scope key signer).seen hidden =
          (b.askDelegator S scope key another).seen hidden := by
        rw [askDelegator, askDelegator, keys]
        exact sign_seen keyed signing a b aConsistent bConsistent same _ .consensus _ _
      obtain ⟨answers, rest⟩ := Prod.mk.inj asked
      obtain ⟨events, _⟩ := Prod.mk.inj rest
      cases answered : (a.askDelegator S scope key signer).answer with
      | error fault =>
          rw [answered] at answers
          have otherAnswered := (map_error_iff _ hidden fault).mp answers.symm
          rw [create_proxy_unsigned S a scope entropy delegator key signer fault read made sized
            answered, create_proxy_unsigned S b scope other delegator key another fault read
            otherMade (keys ▸ sized) otherAnswered]
          simp only [Outcome.seen, Except.map, events, same]
      | ok signature =>
          rw [answered] at answers
          obtain ⟨otherSignature, otherAnswered, _⟩ := (map_ok_iff _ hidden _).mp answers.symm
          have length := sign_length signing a aConsistent _ _ _ _ signature answered
          have otherLength :=
            sign_length signing b bConsistent _ _ _ _ otherSignature otherAnswered
          rw [create_proxy_signed S a scope entropy delegator key signer signature read made sized
            answered, create_proxy_signed S b scope other delegator key another otherSignature read
            otherMade (keys ▸ sized) otherAnswered, ← keys]
          have kept := keep_seen a b same (delegatorScope scope key) signer another
            ⟨key, signer.pubkey⟩ signature otherSignature keys rfl length otherLength
          obtain ⟨keptAnswers, keptRest⟩ := Prod.mk.inj kept
          obtain ⟨keptEvents, keptViews⟩ := Prod.mk.inj keptRest
          simp only [Outcome.seen, after, keptAnswers, events, keptEvents, keptViews]

/-! ## Queries -/

theorem has_consensus_seen (a b : Registry) (same : a.view = b.view) (pubkey : Value) :
    a.hasConsensus pubkey = b.hasConsensus pubkey := by
  obtain ⟨_, held, _⟩ := (view_eq_iff a b).mp same
  rw [hasConsensus, hasConsensus, funext (Ledger.has_of_keys a.consensus b.consensus held)]

theorem has_proxy_seen (a b : Registry) (same : a.view = b.view) (pubkey : Value) :
    a.hasProxy pubkey = b.hasProxy pubkey := by
  have held : a.proxies.keys = b.proxies.keys := held_keys_seen a b same .proxy
  rw [hasProxy, hasProxy, funext (Ledger.has_of_keys a.proxies b.proxies held)]

theorem get_delegation_seen (a b : Registry) (same : a.view = b.view) (pubkey : Value) :
    (a.getDelegation pubkey).map SignedDelegation.redacted =
      (b.getDelegation pubkey).map SignedDelegation.redacted := by
  rw [getDelegation, getDelegation]
  cases toPubkey pubkey with
  | error fault => rfl
  | ok key =>
      have stored := proxy_seen a b same key
      cases found : a.proxies.get? key with
      | none =>
          rw [found] at stored
          have otherFound := Option.map_eq_none_iff.mp stored.symm
          simp only [bind, Except.bind, found, otherFound]
      | some proxy =>
          rw [found] at stored
          obtain ⟨other, otherFound, delegations⟩ := Option.map_eq_some_iff.mp stored.symm
          simp only [bind, Except.bind, pure, Except.pure, found, otherFound, Except.map,
            delegations]

theorem delegations_seen (a b : Registry) (same : a.view = b.view) :
    a.delegations.map SignedDelegation.redacted = b.delegations.map SignedDelegation.redacted := by
  have proxies := congrArg (fun view => view.proxies.map (·.2)) same
  simp only [view, Ledger.mapValues, List.map_map] at proxies
  rw [delegations, delegations, List.map_map, List.map_map]
  exact proxies

end Registry

end KeyCustody
