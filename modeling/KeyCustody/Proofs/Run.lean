import KeyCustody.Proofs.Requests
import KeyCustody.Session

/-!
Runs of a registry. A move asks anything of a registry inside some scope, with signers that come
from any of their three sources; it writes at most one entry, whose key belongs to its signer.
-/

set_option autoImplicit false

namespace KeyCustody

namespace KeySource

variable (S : Scheme)

theorem signer_made (source : KeySource) (signer : Signer)
    (made : source.signer S = .ok signer) : signer.Made S := by
  cases source with
  | backend held => exact Signer.make_made held signer made
  | secret data => exact Signer.of_bytes_made data signer made
  | entropy data => exact Signer.of_entropy_made data signer made

theorem proxy_made (source : KeySource) (delegation : SignedDelegation) (proxy : ProxySigner)
    (made : source.proxy S delegation = .ok proxy) :
    proxy.signer.Made S ∧ proxy.delegation = delegation ∧
      delegation.message.proxy = proxy.pubkey := by
  rw [KeySource.proxy, bind_ok_iff] at made
  obtain ⟨signer, sourced, joined⟩ := made
  obtain ⟨named, rfl⟩ := (proxy_make_ok_iff signer delegation proxy).mp joined
  exact ⟨signer_made S source signer sourced, rfl, named⟩

end KeySource

def Outcome.map {α β : Type} (f : α → β) (outcome : Outcome α) : Outcome β :=
  ⟨outcome.answer.map f, outcome.events, outcome.registry⟩

namespace Registry

inductive Action where
  | addConsensus (source : KeySource)
  | addProxy (source : KeySource) (delegation : SignedDelegation)
  | createProxy (entropy : Bytes) (delegator : Value)
  | sign (role : Role) (pubkey : Value) (message : Message)
  | hasConsensus (pubkey : Value)
  | hasProxy (pubkey : Value)
  | getDelegation (pubkey : Value)
  | consensusKeys
  | proxyKeys
  | delegations

structure Move where
  scope : Scope
  action : Action

variable (S : Scheme)

def perform (registry : Registry) (move : Move) : Outcome Reply :=
  match move.action with
  | .addConsensus source =>
    match source.signer S with
    | .error fault => registry.tell (.error fault)
    | .ok signer => (registry.addConsensus move.scope signer).map fun () => .nothing
  | .addProxy source delegation =>
    match source.proxy S delegation with
    | .error fault => registry.tell (.error fault)
    | .ok proxy => (registry.addProxy move.scope proxy).map fun () => .nothing
  | .createProxy entropy delegator =>
    (registry.createProxy S move.scope entropy delegator).map .delegation
  | .sign role pubkey message => (registry.sign S move.scope role pubkey message).map .bytes
  | .hasConsensus pubkey => registry.tell ((registry.hasConsensus pubkey).map .truth)
  | .hasProxy pubkey => registry.tell ((registry.hasProxy pubkey).map .truth)
  | .getDelegation pubkey => registry.tell ((registry.getDelegation pubkey).map .delegation)
  | .consensusKeys => registry.tell (.ok (.keys registry.consensus.keys))
  | .proxyKeys => registry.tell (.ok (.keys registry.proxies.keys))
  | .delegations => registry.tell (.ok (.delegations registry.delegations))

def next (registry : Registry) (move : Move) : Registry := (registry.perform S move).registry

def reach (registry : Registry) (moves : List Move) : Registry := moves.foldl (next S) registry

def Reachable (chain : Chain) (registry : Registry) : Prop :=
  ∃ moves, (empty chain).reach S moves = registry

-- What a move writes, told from its answer and not from the registry after it.
inductive Write where
  | consensus (signer : Signer)
  | proxy (proxy : ProxySigner)

def Write.proxy? : Write → Option ProxySigner
  | .consensus _ => none
  | .proxy stored => some stored

def write? (registry : Registry) (move : Move) : Option Write :=
  match move.action with
  | .addConsensus source => (source.signer S).toOption.map .consensus
  | .addProxy source delegation => (source.proxy S delegation).toOption.map .proxy
  | .createProxy entropy delegator =>
    match Signer.ofEntropy S entropy,
      (registry.createProxy S move.scope entropy delegator).answer with
    | .ok signer, .ok delegation => some (.proxy ⟨signer, delegation⟩)
    | _, _ => none
  | _ => none

-- All that a move can do, with the write behind it. Everything that holds throughout a run is
-- shown to survive these three cases.
inductive Effect (registry : Registry) : Option Write → Outcome Reply → Prop
  | nothing (answer : Except Fault Reply) (events : List Event) :
      Effect registry none ⟨answer, events, registry⟩
  | consensus (signer : Signer) (made : signer.Made S) (reply : Reply) (events : List Event) :
      Effect registry (some (.consensus signer))
        ⟨.ok reply, events,
          { registry with consensus := registry.consensus.put signer.pubkey signer }⟩
  | proxy (proxy : ProxySigner) (made : proxy.signer.Made S)
      (named : proxy.delegation.message.proxy = proxy.pubkey) (reply : Reply)
      (events : List Event) :
      Effect registry (some (.proxy proxy))
        ⟨.ok reply, events,
          { registry with proxies := registry.proxies.put proxy.pubkey proxy }⟩

theorem create_proxy_unwritten (registry : Registry) (scope : Scope) (entropy : Bytes)
    (delegator : Value) (fault : Fault)
    (refused : (registry.createProxy S scope entropy delegator).answer = .error fault) :
    registry.write? S ⟨scope, .createProxy entropy delegator⟩ = none := by
  rw [write?]
  simp only [refused]
  cases Signer.ofEntropy S entropy <;> rfl

theorem create_proxy_written (registry : Registry) (scope : Scope) (entropy : Bytes)
    (delegator : Value) (proxy : ProxySigner)
    (minted : Signer.ofEntropy S entropy = .ok proxy.signer)
    (answered :
      (registry.createProxy S scope entropy delegator).answer = .ok proxy.delegation) :
    registry.write? S ⟨scope, .createProxy entropy delegator⟩ = some (.proxy proxy) := by
  rw [write?]
  simp only [minted, answered]

theorem perform_effect (registry : Registry) (move : Move) :
    Effect S registry (registry.write? S move) (registry.perform S move) := by
  obtain ⟨scope, action⟩ := move
  cases action with
  | addConsensus source =>
      cases made : source.signer S with
      | error fault =>
          simp only [write?, perform, made]
          exact .nothing _ _
      | ok signer =>
          simp only [write?, perform, made]
          exact .consensus signer (source.signer_made S signer made) _ _
  | addProxy source delegation =>
      cases made : source.proxy S delegation with
      | error fault =>
          simp only [write?, perform, made]
          exact .nothing _ _
      | ok proxy =>
          obtain ⟨signerMade, rfl, named⟩ := source.proxy_made S delegation proxy made
          simp only [write?, perform, made]
          exact .proxy proxy signerMade named _ _
  | createProxy entropy delegator =>
      rcases create_proxy_cases S registry scope entropy delegator with
        ⟨fault, refused, same⟩ | ⟨proxy, minting, answered, stored⟩
      · rw [create_proxy_unwritten S registry scope entropy delegator fault refused]
        simp only [perform, Outcome.map, same]
        exact .nothing _ _
      · rw [create_proxy_written S registry scope entropy delegator proxy minting.minted answered]
        simp only [perform, Outcome.map, answered, stored]
        exact .proxy proxy (Signer.of_entropy_made entropy proxy.signer minting.minted)
          minting.named _ _
  | sign role pubkey message =>
      simp only [perform, Outcome.map, sign_keeps_registry]
      exact .nothing _ _
  | _ => exact .nothing _ _

theorem effect_proxies (registry : Registry) (write : Option Write) (outcome : Outcome Reply)
    (effect : Effect S registry write outcome) :
    outcome.registry.proxies =
      match write.bind Write.proxy? with
      | none => registry.proxies
      | some proxy => registry.proxies.put proxy.pubkey proxy := by
  cases effect <;> rfl

-- A run keeps what each effect keeps.
theorem reach_induction (invariant : Registry → Prop)
    (kept : ∀ before write outcome, Effect S before write outcome → invariant before →
      invariant outcome.registry)
    (registry : Registry) (moves : List Move) (holds : invariant registry) :
    invariant (registry.reach S moves) := by
  induction moves generalizing registry with
  | nil => exact holds
  | cons move rest ih =>
      exact ih (registry.next S move) (kept registry _ _ (perform_effect S registry move) holds)

theorem reach_append (registry : Registry) (first second : List Move) :
    registry.reach S (first ++ second) = (registry.reach S first).reach S second := by
  rw [reach, List.foldl_append]
  rfl

theorem reach_chain (registry : Registry) (moves : List Move) :
    (registry.reach S moves).chain = registry.chain := by
  apply reach_induction S (fun later => later.chain = registry.chain) ?_ registry moves rfl
  intro before write outcome effect same
  cases effect <;> exact same

theorem reach_consensus_keys (registry : Registry) (moves : List Move) :
    registry.consensus.keys <+: (registry.reach S moves).consensus.keys := by
  apply reach_induction S (fun later => registry.consensus.keys <+: later.consensus.keys) ?_
    registry moves (List.prefix_refl _)
  intro before write outcome effect grown
  cases effect with
  | consensus signer _ _ _ => exact grown.trans (before.consensus.keys_put_prefix _ _)
  | _ => exact grown

end Registry

namespace Session

variable (S : Scheme)

theorem serve_moves (session : Session) (request : Request) :
    ∃ move, (session.serve S request).1.registry = session.registry.next S move := by
  cases request with
  | createProxy entropy delegator => exact ⟨⟨session.scope, .createProxy entropy delegator⟩, rfl⟩
  | sign role pubkey message => exact ⟨⟨session.scope, .sign role pubkey message⟩, rfl⟩

theorem serve_all_moves (session : Session) (requests : List Request) :
    ∃ moves, (session.serveAll S requests).1.registry = session.registry.reach S moves := by
  induction requests generalizing session with
  | nil => exact ⟨[], rfl⟩
  | cons request rest ih =>
      obtain ⟨move, served⟩ := serve_moves S session request
      obtain ⟨moves, followed⟩ := ih (session.serve S request).1
      rw [served] at followed
      exact ⟨move :: moves, followed⟩

theorem add_consensus_moves (session : Session) (source : KeySource) :
    (session.addConsensus S source).1.registry =
      session.registry.next S ⟨session.scope, .addConsensus source⟩ := by
  rw [Session.addConsensus, Registry.next, Registry.perform]
  dsimp only
  cases source.signer S <;> rfl

theorem add_proxy_moves (session : Session) (delegation : Value) (source : KeySource) :
    ∃ moves,
      (session.addProxy S delegation source).1.registry = session.registry.reach S moves := by
  rw [Session.addProxy]
  cases SignedDelegation.ofValue delegation with
  | error fault => exact ⟨[], rfl⟩
  | ok d =>
      refine ⟨[⟨session.scope, .addProxy source d⟩], ?_⟩
      change _ = session.registry.next S _
      rw [Registry.next, Registry.perform]
      simp only [bind, Except.bind]
      cases source.proxy S d <;> rfl

-- Whatever a command asks besides, it does to the registry what some moves do.
theorem perform_moves (session : Session) (command : Command) :
    ∃ moves, (session.perform S command).1.registry = session.registry.reach S moves := by
  cases command with
  | addConsensus source => exact ⟨[_], add_consensus_moves S session source⟩
  | addProxy delegation source => exact add_proxy_moves S session delegation source
  | request request =>
      obtain ⟨move, served⟩ := serve_moves S session request
      exact ⟨[move], served⟩
  | gather requests => exact serve_all_moves S session requests
  | applyConfig config =>
      refine ⟨[], ?_⟩
      rw [perform]
      cases LoggingConfig.ofValue config <;> rfl
  | enterScope tags =>
      refine ⟨[], ?_⟩
      rw [perform, enterScope]
      cases Scope.ofTags tags <;> rfl
  | _ => exact ⟨[], rfl⟩

theorem run_moves (session : Session) (steps : List Step) :
    ∃ moves, (session.run S steps).1.registry = session.registry.reach S moves := by
  induction steps generalizing session with
  | nil => exact ⟨[], rfl⟩
  | cons step rest ih =>
      obtain ⟨time, command⟩ := step
      obtain ⟨first, performed⟩ : ∃ first, (session.advance S ⟨time, command⟩).1.registry =
          session.registry.reach S first := by
        cases time with
        | none => exact perform_moves S session command
        | some time => exact perform_moves S (session.atTime time) command
      obtain ⟨second, followed⟩ := ih (session.advance S ⟨time, command⟩).1
      rw [performed, ← Registry.reach_append] at followed
      exact ⟨first ++ second, followed⟩

end Session

end KeyCustody
