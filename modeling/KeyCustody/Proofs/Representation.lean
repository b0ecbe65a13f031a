import KeyCustody.Proofs.Recorded

/-!
What every reachable registry stores: each key once, under the key that its signer derives, and for
a proxy under the key that its delegation names. The queries agree with each other because of it.
-/

set_option autoImplicit false

namespace KeyCustody.Registry

variable {S : Scheme}

structure Consistent (S : Scheme) (registry : Registry) : Prop where
  consensusUnique : registry.consensus.keys.Nodup
  proxiesUnique : registry.proxies.keys.Nodup
  consensusMade : ∀ key signer, (key, signer) ∈ registry.consensus →
    signer.pubkey = key ∧ signer.Made S
  proxiesMade : ∀ key proxy, (key, proxy) ∈ registry.proxies →
    proxy.pubkey = key ∧ proxy.signer.Made S ∧ proxy.delegation.message.proxy = key

theorem empty_consistent (chain : Chain) : (empty chain).Consistent S where
  consensusUnique := List.nodup_nil
  proxiesUnique := List.nodup_nil
  consensusMade _ _ member := by cases member
  proxiesMade _ _ member := by cases member

theorem effect_consistent (before : Registry) (write : Option Write) (outcome : Outcome Reply)
    (effect : Effect S before write outcome) (consistent : before.Consistent S) :
    outcome.registry.Consistent S := by
  cases effect with
  | nothing => exact consistent
  | consensus signer made _ _ =>
      refine ⟨before.consensus.keys_put_nodup _ _ consistent.consensusUnique,
        consistent.proxiesUnique, ?_, consistent.proxiesMade⟩
      intro key stored member
      rcases before.consensus.member_put _ _ _ member with fresh | old
      · cases fresh
        exact ⟨rfl, made⟩
      · exact consistent.consensusMade key stored old
  | proxy proxy made named _ _ =>
      refine ⟨consistent.consensusUnique,
        before.proxies.keys_put_nodup _ _ consistent.proxiesUnique,
        consistent.consensusMade, ?_⟩
      intro key stored member
      rcases before.proxies.member_put _ _ _ member with fresh | old
      · cases fresh
        exact ⟨rfl, made, named⟩
      · exact consistent.proxiesMade key stored old

theorem reach_consistent (registry : Registry) (moves : List Move)
    (consistent : registry.Consistent S) : (registry.reach S moves).Consistent S :=
  reach_induction S (Consistent S) effect_consistent registry moves consistent

theorem reachable_consistent (chain : Chain) (registry : Registry)
    (reached : Reachable S chain registry) : registry.Consistent S := by
  obtain ⟨moves, rfl⟩ := reached
  exact reach_consistent (empty chain) moves (empty_consistent chain)

theorem reachable_chain (chain : Chain) (registry : Registry)
    (reached : Reachable S chain registry) : registry.chain = chain := by
  obtain ⟨moves, rfl⟩ := reached
  exact reach_chain S (empty chain) moves

namespace Consistent

theorem consensus_signer (registry : Registry) (consistent : registry.Consistent S) (key : Bytes)
    (signer : Signer) (found : registry.consensus.get? key = some signer) :
    signer.pubkey = key ∧ signer.Made S :=
  consistent.consensusMade key signer (registry.consensus.get_member key signer found)

theorem proxy_signer (registry : Registry) (consistent : registry.Consistent S) (key : Bytes)
    (proxy : ProxySigner) (found : registry.proxies.get? key = some proxy) :
    proxy.pubkey = key ∧ proxy.signer.Made S ∧ proxy.delegation.message.proxy = key :=
  consistent.proxiesMade key proxy (registry.proxies.get_member key proxy found)

end Consistent

/-! ## Queries -/

theorem get_delegation_iff (registry : Registry) (pubkey : Value) (d : SignedDelegation) :
    registry.getDelegation pubkey = .ok d ↔ ∃ key proxy, toPubkey pubkey = .ok key ∧
      registry.proxies.get? key = some proxy ∧ proxy.delegation = d := by
  rw [getDelegation, bind_ok_iff]
  apply exists_congr
  intro key
  cases found : registry.proxies.get? key with
  | none => simp [throw, throwThe, MonadExceptOf.throw]
  | some proxy => simp [pure, Except.pure]

theorem has_proxy_iff (registry : Registry) (pubkey : Value) :
    registry.hasProxy pubkey = .ok true ↔ ∃ key, toPubkey pubkey = .ok key ∧
      key ∈ registry.proxies.keys := by
  rw [hasProxy, map_ok_iff]
  simp only [Ledger.has_iff_mem_keys]

theorem has_consensus_iff (registry : Registry) (pubkey : Value) :
    registry.hasConsensus pubkey = .ok true ↔ ∃ key, toPubkey pubkey = .ok key ∧
      key ∈ registry.consensus.keys := by
  rw [hasConsensus, map_ok_iff]
  simp only [Ledger.has_iff_mem_keys]

theorem has_proxy_iff_delegation (registry : Registry) (pubkey : Value) :
    registry.hasProxy pubkey = .ok true ↔ ∃ d, registry.getDelegation pubkey = .ok d := by
  rw [has_proxy_iff]
  constructor
  · rintro ⟨key, read, present⟩
    obtain ⟨proxy, found⟩ := (registry.proxies.get_is_some_iff key).mpr present
    exact ⟨proxy.delegation,
      (get_delegation_iff registry pubkey _).mpr ⟨key, proxy, read, found, rfl⟩⟩
  · rintro ⟨d, told⟩
    obtain ⟨key, proxy, read, found, _⟩ := (get_delegation_iff registry pubkey d).mp told
    exact ⟨key, read, (registry.proxies.get_is_some_iff key).mp ⟨proxy, found⟩⟩

theorem delegations_named (registry : Registry) (consistent : registry.Consistent S) :
    registry.delegations.map (·.message.proxy) = registry.proxies.keys := by
  rw [delegations, List.map_map, Ledger.keys]
  apply List.map_congr_left
  intro entry member
  exact (consistent.proxiesMade entry.1 entry.2 member).2.2

theorem delegations_told (keyed : S.Keyed) (registry : Registry)
    (consistent : registry.Consistent S) :
    registry.proxies.keys.map (fun key => registry.getDelegation (.bytes key)) =
      registry.delegations.map .ok := by
  rw [delegations, List.map_map, Ledger.keys, List.map_map]
  apply List.map_congr_left
  intro entry member
  obtain ⟨named, made, _⟩ := consistent.proxiesMade entry.1 entry.2 member
  have sized : entry.1.length = pubkeyLength := by
    rw [← named]
    exact Signer.made_length keyed entry.2.signer made
  -- Each key stands once, so asking for it finds this entry and no other.
  have found := registry.proxies.member_get entry.1 entry.2 consistent.proxiesUnique member
  exact (get_delegation_iff registry (.bytes entry.1) _).mpr
    ⟨entry.1, entry.2, to_pubkey_raw entry.1 sized, found, rfl⟩

/-! ## Reachable registries -/

structure Represented (S : Scheme) (registry : Registry) : Prop where
  consensusUnique : registry.consensus.keys.Nodup
  proxiesUnique : registry.proxies.keys.Nodup
  consensusKeys : ∀ key signer, (key, signer) ∈ registry.consensus →
    key.length = pubkeyLength ∧ signer.pubkey = key ∧
      ∃ secret : Int, signer.backend = .plain secret ∧ 0 < secret ∧ secret < S.order ∧
        S.derive secret = some key
  proxyKeys : ∀ key proxy, (key, proxy) ∈ registry.proxies →
    key.length = pubkeyLength ∧ proxy.delegation.message.proxy = key ∧
      proxy.signer.pubkey = key ∧
      ∃ secret : Int, proxy.signer.backend = .plain secret ∧ S.derive secret = some key

structure Coherent (registry : Registry) : Prop where
  told : registry.proxies.keys.map (fun key => registry.getDelegation (.bytes key)) =
    registry.delegations.map .ok
  named : registry.delegations.map (·.message.proxy) = registry.proxies.keys
  proxyKnown : ∀ pubkey, registry.hasProxy pubkey = .ok true ↔
    ∃ d, registry.getDelegation pubkey = .ok d
  consensusKnown : ∀ pubkey, registry.hasConsensus pubkey = .ok true ↔
    ∃ key, toPubkey pubkey = .ok key ∧ key ∈ registry.consensus.keys

theorem consistent_represented (keyed : S.Keyed) (registry : Registry)
    (consistent : registry.Consistent S) : registry.Represented S where
  consensusUnique := consistent.consensusUnique
  proxiesUnique := consistent.proxiesUnique
  consensusKeys key signer member := by
    obtain ⟨rfl, made⟩ := consistent.consensusMade key signer member
    obtain ⟨secret, plain, derived⟩ := made
    obtain ⟨positive, bounded⟩ := secret_in_range keyed secret signer.pubkey derived
    exact ⟨keyed.length_derive secret signer.pubkey derived, rfl, secret, plain, positive,
      bounded, derived⟩
  proxyKeys key proxy member := by
    obtain ⟨rfl, made, named⟩ := consistent.proxiesMade key proxy member
    obtain ⟨secret, plain, derived⟩ := made
    exact ⟨keyed.length_derive secret proxy.signer.pubkey derived, named, rfl, secret, plain,
      derived⟩

theorem reachable_registry_represented (keyed : S.Keyed) (chain : Chain) (registry : Registry)
    (reached : Reachable S chain registry) :
    registry.Represented S ∧ registry.Coherent := by
  have consistent := reachable_consistent chain registry reached
  exact ⟨consistent_represented keyed registry consistent,
    delegations_told keyed registry consistent, delegations_named registry consistent,
    has_proxy_iff_delegation registry, has_consensus_iff registry⟩

theorem recorded_registry_represented :
    Recorded.registry.consensus.keys = [Recorded.holderKey] ∧
      Recorded.registry.proxies.keys = [Recorded.proxyKey] ∧
      Recorded.registry.Represented Recorded.scheme ∧ Recorded.registry.Coherent := by
  refine ⟨by decide +kernel, by decide +kernel, ?_⟩
  exact reachable_registry_represented Recorded.keyed .mainnet Recorded.registry ⟨_, rfl⟩

end KeyCustody.Registry

namespace KeyCustody.Session

variable {S : Scheme}

theorem serve_consistent (session : Session) (consistent : session.registry.Consistent S)
    (request : Request) : (session.serve S request).1.registry.Consistent S := by
  obtain ⟨move, served⟩ := serve_moves S session request
  rw [served]
  exact Registry.reach_consistent session.registry [move] consistent

theorem run_consistent (session : Session) (consistent : session.registry.Consistent S)
    (steps : List Step) : (session.run S steps).1.registry.Consistent S := by
  obtain ⟨moves, reached⟩ := run_moves S session steps
  rw [reached]
  exact Registry.reach_consistent session.registry moves consistent

theorem advance_consistent (session : Session) (consistent : session.registry.Consistent S)
    (step : Step) : (session.advance S step).1.registry.Consistent S :=
  run_consistent session consistent [step]

end KeyCustody.Session
