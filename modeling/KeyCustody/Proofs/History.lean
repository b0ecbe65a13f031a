import KeyCustody.Proofs.Delegations
import Mathlib.Data.List.Induction

/-!
What a registry holds after a run, told from the run alone: the keys in the order of their first
writes, and under each key what its last write put there. Nothing but a registration leaves a trace,
and what is done about proxies never shows in an answer about consensus keys.
-/

set_option autoImplicit false

namespace KeyCustody

/-! ## Ledgers written entry by entry -/

namespace Ledger

variable {α : Type}

def record (ledger : Ledger α) (writes : List (Bytes × α)) : Ledger α :=
  writes.foldl (fun ledger write => ledger.put write.1 write.2) ledger

theorem record_append_one (ledger : Ledger α) (writes : List (Bytes × α)) (key : Bytes)
    (value : α) :
    ledger.record (writes ++ [(key, value)]) = (ledger.record writes).put key value := by
  rw [record, List.foldl_append]
  rfl

-- A write is looked at from behind: whether its key is new depends on all writes before it.
theorem keys_record (writes : List (Bytes × α)) :
    (record [] writes).keys = (writes.map (·.1)).eraseDups := by
  induction writes using List.reverseRecOn with
  | nil => rfl
  | append_singleton earlier write ih =>
      obtain ⟨key, value⟩ := write
      rw [record_append_one, keys_put, ih, List.map_append, List.map_singleton,
        List.eraseDups_append]
      by_cases before : key ∈ earlier.map (·.1)
      · simp [before, List.removeAll]
      · simp [before, List.removeAll, List.eraseDups_cons]

theorem get_record (writes : List (Bytes × α)) (key : Bytes) :
    (record [] writes).get? key =
      ((writes.filter fun write => write.1 = key).getLast?).map (·.2) := by
  induction writes using List.reverseRecOn with
  | nil => rfl
  | append_singleton earlier write ih =>
      obtain ⟨other, value⟩ := write
      rw [record_append_one, get_put, ih, List.filter_append]
      by_cases same : other = key
      · simp [same]
      · simp [same]

-- The entries of a register, each written under the key that it belongs to.
theorem keys_record_owned (entries : List α) (owner : α → Bytes) :
    (record [] (entries.map fun entry => (owner entry, entry))).keys =
      (entries.map owner).eraseDups := by
  rw [keys_record, List.map_map]
  rfl

theorem get_record_owned (entries : List α) (owner : α → Bytes) (key : Bytes) :
    (record [] (entries.map fun entry => (owner entry, entry))).get? key =
      (entries.filter fun entry => owner entry = key).getLast? := by
  rw [get_record, List.filter_map, List.getLast?_map, Option.map_map]
  exact Option.map_id'

end Ledger

namespace Registry

/-! ## The writes of a run -/

section Writes

variable (S : Scheme)

-- A consensus key comes from its own registration, whatever the registry holds by then.
def registered? (move : Move) : Option Signer :=
  match move.action with
  | .addConsensus source => (source.signer S).toOption
  | _ => none

def registered (moves : List Move) : List Signer := moves.filterMap (registered? S)

-- Whether a proxy can be minted depends on the registry that is asked.
def authorized (registry : Registry) : List Move → List ProxySigner
  | [] => []
  | move :: rest =>
    (registry.proxyWrite? S move).toList ++ authorized (registry.next S move) rest

def Write.signer? : Write → Option Signer
  | .consensus signer => some signer
  | .proxy _ => none

theorem write_signer (registry : Registry) (move : Move) :
    (registry.write? S move).bind Write.signer? = registered? S move := by
  obtain ⟨scope, action⟩ := move
  cases action with
  | addConsensus source =>
      cases made : source.signer S <;> simp only [write?, registered?, made] <;> rfl
  | addProxy source delegation =>
      cases made : source.proxy S delegation <;> simp only [write?, registered?, made] <;> rfl
  | createProxy entropy delegator =>
      rcases create_proxy_cases S registry scope entropy delegator with
        ⟨fault, refused, _⟩ | ⟨proxy, minting, answered, _⟩
      · rw [create_proxy_unwritten S registry scope entropy delegator fault refused]
        rfl
      · rw [create_proxy_written S registry scope entropy delegator proxy minting.minted answered]
        rfl
  | _ => rfl

theorem effect_consensus (registry : Registry) (write : Option Write) (outcome : Outcome Reply)
    (effect : Effect S registry write outcome) :
    outcome.registry.consensus =
      match write.bind Write.signer? with
      | none => registry.consensus
      | some signer => registry.consensus.put signer.pubkey signer := by
  cases effect <;> rfl

theorem next_consensus (registry : Registry) (move : Move) :
    (registry.next S move).consensus =
      match registered? S move with
      | none => registry.consensus
      | some signer => registry.consensus.put signer.pubkey signer := by
  rw [← write_signer S registry move]
  exact effect_consensus S registry _ _ (perform_effect S registry move)

theorem reach_consensus (registry : Registry) (moves : List Move) :
    (registry.reach S moves).consensus =
      registry.consensus.record
        ((registered S moves).map fun signer => (signer.pubkey, signer)) := by
  induction moves generalizing registry with
  | nil => rfl
  | cons move rest ih =>
      refine (ih (registry.next S move)).trans ?_
      rw [next_consensus, registered, registered, List.filterMap_cons]
      cases registered? S move <;> rfl

theorem reach_proxies (registry : Registry) (moves : List Move) :
    (registry.reach S moves).proxies =
      registry.proxies.record
        ((registry.authorized S moves).map fun proxy => (proxy.pubkey, proxy)) := by
  induction moves generalizing registry with
  | nil => rfl
  | cons move rest ih =>
      refine (ih (registry.next S move)).trans ?_
      rw [next_proxies, authorized]
      cases registry.proxyWrite? S move <;> rfl

theorem reach_proxy_keys (registry : Registry) (moves : List Move) :
    registry.proxies.keys <+: (registry.reach S moves).proxies.keys := by
  apply reach_induction S (fun later => registry.proxies.keys <+: later.proxies.keys) ?_
    registry moves (List.prefix_refl _)
  intro before write outcome effect grown
  cases effect with
  | proxy proxy _ _ _ _ => exact grown.trans (before.proxies.keys_put_prefix _ _)
  | _ => exact grown

/-! ## Moves without a trace -/

-- Requests that only look or sign.
def Action.asks : Action → Bool
  | .addConsensus _ | .addProxy _ _ | .createProxy _ _ => false
  | _ => true

structure Traceless (registry : Registry) (move : Move) : Prop where
  registersNone : registered? S move = none
  authorizesNone : registry.proxyWrite? S move = none
  kept : registry.next S move = registry

theorem unwritten_traceless (registry : Registry) (move : Move)
    (unwritten : registry.write? S move = none) : Traceless S registry move where
  registersNone := by
    rw [← write_signer S registry move, unwritten]
    rfl
  authorizesNone := by
    rw [proxyWrite?, unwritten]
    rfl
  kept := by
    have effect := perform_effect S registry move
    rw [unwritten] at effect
    rw [next]
    generalize registry.perform S move = outcome at effect
    cases effect
    rfl

theorem asking_traceless (registry : Registry) (move : Move) (asking : move.action.asks = true) :
    Traceless S registry move := by
  apply unwritten_traceless
  obtain ⟨scope, action⟩ := move
  cases action with
  | addConsensus => cases asking
  | addProxy => cases asking
  | createProxy => cases asking
  | _ => rfl

theorem failed_traceless (registry : Registry) (move : Move) (fault : Fault)
    (failed : (registry.perform S move).answer = .error fault) : Traceless S registry move := by
  apply unwritten_traceless
  have effect := perform_effect S registry move
  generalize registry.write? S move = write at effect ⊢
  generalize registry.perform S move = outcome at effect failed
  cases effect with
  | nothing => rfl
  | consensus => cases failed
  | proxy => cases failed

/-! ## Answers about consensus keys -/

def Action.concernsProxies : Action → Bool
  | .addProxy _ _ | .createProxy _ _ | .sign .proxy _ _ | .hasProxy _ | .getDelegation _
  | .proxyKeys | .delegations => true
  | _ => false

-- All that can be asked about consensus keys.
structure SameConsensus (a b : Registry) : Prop where
  keys : a.consensus.keys = b.consensus.keys
  known : ∀ pubkey, a.hasConsensus pubkey = b.hasConsensus pubkey
  signed : ∀ scope pubkey message,
    (a.sign S scope .consensus pubkey message).answer =
      (b.sign S scope .consensus pubkey message).answer
  reported : ∀ scope pubkey message,
    (a.sign S scope .consensus pubkey message).events =
      (b.sign S scope .consensus pubkey message).events

theorem same_consensus (a b : Registry) (chain : a.chain = b.chain)
    (consensus : a.consensus = b.consensus) : SameConsensus S a b := by
  obtain ⟨aChain, aConsensus, aProxies⟩ := a
  obtain ⟨bChain, bConsensus, bProxies⟩ := b
  cases chain
  cases consensus
  have agree : ∀ scope pubkey message,
      (sign S ⟨aChain, aConsensus, aProxies⟩ scope .consensus pubkey message).answer =
          (sign S ⟨aChain, aConsensus, bProxies⟩ scope .consensus pubkey message).answer ∧
        (sign S ⟨aChain, aConsensus, aProxies⟩ scope .consensus pubkey message).events =
          (sign S ⟨aChain, aConsensus, bProxies⟩ scope .consensus pubkey message).events := by
    intro scope pubkey message
    rw [sign, sign]
    cases toPubkey pubkey with
    | error fault => exact ⟨rfl, rfl⟩
    | ok key =>
        simp only [signer?]
        cases aConsensus.get? key <;> exact ⟨rfl, rfl⟩
  exact ⟨rfl, fun _ => rfl, fun scope pubkey message => (agree scope pubkey message).1,
    fun scope pubkey message => (agree scope pubkey message).2⟩

theorem registered_without_proxies (moves : List Move) :
    registered S (moves.filter fun move => !move.action.concernsProxies) = registered S moves := by
  induction moves with
  | nil => rfl
  | cons move rest ih =>
      rw [registered, registered] at ih ⊢
      rw [List.filter_cons, List.filterMap_cons]
      cases concerned : move.action.concernsProxies with
      | false => simp only [Bool.not_false, if_true, List.filterMap_cons, ih]
      | true =>
          have none_registered : registered? S move = none := by
            obtain ⟨scope, action⟩ := move
            cases action with
            | addConsensus => cases concerned
            | _ => rfl
          simp [none_registered, ih]

end Writes

/-! ## The registry and its history -/

structure Recalls (registry : Registry) (signers : List Signer) (proxies : List ProxySigner) :
    Prop where
  consensusKeys : registry.consensus.keys = (signers.map (·.pubkey)).eraseDups
  consensusLatest : ∀ key, registry.consensus.get? key =
    (signers.filter fun signer => signer.pubkey = key).getLast?
  proxyKeys : registry.proxies.keys = (proxies.map (·.pubkey)).eraseDups
  proxyLatest : ∀ key, registry.proxies.get? key =
    (proxies.filter fun proxy => proxy.pubkey = key).getLast?

variable (S : Scheme)

theorem reach_recalls (chain : Chain) (moves : List Move) :
    Recalls ((empty chain).reach S moves) (registered S moves)
      ((empty chain).authorized S moves) where
  consensusKeys := by
    rw [reach_consensus]
    exact Ledger.keys_record_owned _ _
  consensusLatest key := by
    rw [reach_consensus]
    exact Ledger.get_record_owned _ _ key
  proxyKeys := by
    rw [reach_proxies]
    exact Ledger.keys_record_owned _ _
  proxyLatest key := by
    rw [reach_proxies]
    exact Ledger.get_record_owned _ _ key

theorem reach_prefix (chain : Chain) (earlier later : List Move) :
    ((empty chain).reach S earlier).consensus.keys <+:
        ((empty chain).reach S (earlier ++ later)).consensus.keys ∧
      ((empty chain).reach S earlier).proxies.keys <+:
        ((empty chain).reach S (earlier ++ later)).proxies.keys := by
  rw [reach_append]
  exact ⟨reach_consensus_keys S _ later, reach_proxy_keys S _ later⟩

theorem consensus_without_proxies (chain : Chain) (moves : List Move) :
    SameConsensus S ((empty chain).reach S moves)
      ((empty chain).reach S (moves.filter fun move => !move.action.concernsProxies)) := by
  apply same_consensus
  · rw [reach_chain, reach_chain]
  · rw [reach_consensus, reach_consensus, registered_without_proxies]

theorem registry_refines_history (chain : Chain) (moves : List Move) :
    Recalls ((empty chain).reach S moves) (registered S moves) ((empty chain).authorized S moves) ∧
    (∀ registry move, move.action.asks = true → Traceless S registry move) ∧
    (∀ registry move fault, (registry.perform S move).answer = .error fault →
      Traceless S registry move) ∧
    SameConsensus S ((empty chain).reach S moves)
      ((empty chain).reach S (moves.filter fun move => !move.action.concernsProxies)) ∧
    ∀ earlier later, moves = earlier ++ later →
      ((empty chain).reach S earlier).consensus.keys <+:
          ((empty chain).reach S moves).consensus.keys ∧
        ((empty chain).reach S earlier).proxies.keys <+:
          ((empty chain).reach S moves).proxies.keys := by
  refine ⟨reach_recalls S chain moves, asking_traceless S, failed_traceless S,
    consensus_without_proxies S chain moves, ?_⟩
  rintro earlier later rfl
  exact reach_prefix S chain earlier later

def otherKey : Bytes := Recorded.keyOf 5

-- Names the recorded proxy once more, for another delegator.
def laterDelegation : SignedDelegation := ⟨⟨otherKey, Recorded.proxyKey⟩, Recorded.signature⟩

-- The recorded proxy is minted before another one is added, and is then added again.
def overwriting : List Move :=
  Recorded.early ++ Recorded.mint :: [
    ⟨.empty, .addProxy (.backend (.plain 5)) ⟨⟨Recorded.holderKey, otherKey⟩, Recorded.signature⟩⟩,
    ⟨.empty, .addProxy (.backend (.plain Recorded.proxySecret)) laterDelegation⟩]

theorem overwritten_proxy_recalled :
    ((empty .mainnet).reach Recorded.scheme overwriting).proxies.keys =
        [Recorded.proxyKey, otherKey] ∧
      (((empty .mainnet).reach Recorded.scheme overwriting).proxies.get? Recorded.proxyKey).map
        (·.delegation) = some laterDelegation ∧
      ((empty .mainnet).reach Recorded.scheme overwriting).next Recorded.scheme
        ⟨.empty, .addConsensus (.secret [])⟩ = (empty .mainnet).reach Recorded.scheme overwriting ∧
      ((empty .mainnet).reach Recorded.scheme overwriting).next Recorded.scheme
        ⟨.empty, .delegations⟩ = (empty .mainnet).reach Recorded.scheme overwriting ∧
      ((empty .mainnet).reach Recorded.scheme Recorded.early).consensus.keys <+:
        ((empty .mainnet).reach Recorded.scheme overwriting).consensus.keys := by
  obtain ⟨recalls, asking, failing, _, growing⟩ :=
    registry_refines_history Recorded.scheme .mainnet overwriting
  refine ⟨?_, ?_, ?_, ?_, ?_⟩
  · rw [recalls.proxyKeys]
    decide +kernel
  · rw [recalls.proxyLatest]
    decide +kernel
  · exact (failing _ ⟨.empty, .addConsensus (.secret [])⟩ (.secretLength 0) rfl).kept
  · exact (asking _ ⟨.empty, .delegations⟩ rfl).kept
  · exact (growing Recorded.early _ rfl).1

end Registry

end KeyCustody
