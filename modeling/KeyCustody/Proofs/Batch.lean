import KeyCustody.Proofs.History

/-!
Requests that are served together. What a batch comes to does not depend on the order of its
requests, as long as its new proxy keys are different and none of them is asked to sign in the same
batch.
-/

set_option autoImplicit false

namespace KeyCustody

/-! ## Writes under different keys -/

namespace Ledger

variable {α : Type}

theorem get_record_absent (ledger : Ledger α) (writes : List (Bytes × α)) (key : Bytes)
    (absent : key ∉ writes.map (·.1)) : (ledger.record writes).get? key = ledger.get? key := by
  induction writes generalizing ledger with
  | nil => rfl
  | cons write rest ih =>
      rw [List.map_cons, List.mem_cons, not_or] at absent
      rw [record, List.foldl_cons]
      exact (ih _ absent.2).trans
        ((ledger.get_put _ _ _).trans (if_neg (Ne.symm absent.1)))

theorem get_record_member (ledger : Ledger α) (writes : List (Bytes × α)) (key : Bytes) (value : α)
    (distinct : (writes.map (·.1)).Nodup) (member : (key, value) ∈ writes) :
    (ledger.record writes).get? key = some value := by
  induction writes generalizing ledger with
  | nil => cases member
  | cons write rest ih =>
      obtain ⟨absent, later⟩ := List.nodup_cons.mp distinct
      rw [record, List.foldl_cons]
      rcases List.mem_cons.mp member with rfl | further
      · exact (get_record_absent _ rest key absent).trans
          ((ledger.get_put _ _ _).trans (if_pos rfl))
      · exact ih _ later further

theorem get_record_permuted (ledger : Ledger α) (writes others : List (Bytes × α))
    (distinct : (writes.map (·.1)).Nodup) (permuted : writes.Perm others) (key : Bytes) :
    (ledger.record writes).get? key = (ledger.record others).get? key := by
  have keys := permuted.map (·.1)
  by_cases written : key ∈ writes.map (·.1)
  · obtain ⟨⟨_, value⟩, member, rfl⟩ := List.mem_map.mp written
    rw [get_record_member ledger writes _ value distinct member,
      get_record_member ledger others _ value (keys.nodup_iff.mp distinct)
        (permuted.mem_iff.mp member)]
  · rw [get_record_absent ledger writes key written,
      get_record_absent ledger others key (fun later => written (keys.mem_iff.mpr later))]

-- New keys come behind those that are there, in the order in which they are written.
theorem keys_record_distinct (ledger : Ledger α) (writes : List (Bytes × α))
    (distinct : (writes.map (·.1)).Nodup) :
    (ledger.record writes).keys =
      ledger.keys ++ (writes.map (·.1)).filter fun key => key ∉ ledger.keys := by
  induction writes generalizing ledger with
  | nil => simp [record]
  | cons write rest ih =>
      obtain ⟨key, value⟩ := write
      obtain ⟨absent, later⟩ := List.nodup_cons.mp distinct
      rw [record, List.foldl_cons]
      refine (ih (ledger.put key value) later).trans ?_
      rw [keys_put, List.map_cons, List.filter_cons]
      by_cases present : key ∈ ledger.keys
      · simp only [present, if_true, not_true, decide_false, Bool.false_eq_true, if_false]
      · simp only [present, if_false, not_false_eq_true, decide_true, if_true,
          List.append_assoc, List.singleton_append]
        congr 2
        apply List.filter_congr
        intro other member
        have different : other ≠ key := fun same => absent (same ▸ member)
        simp [different]

end Ledger

/-! ## One request -/

def Request.move (scope : Scope) : Request → Registry.Move
  | .createProxy entropy delegator => ⟨scope, .createProxy entropy delegator⟩
  | .sign role pubkey message => ⟨scope, .sign role pubkey message⟩

namespace Registry

variable (S : Scheme)

def withProxies (registry : Registry) (proxies : Ledger ProxySigner) : Registry :=
  { registry with proxies := proxies }

theorem keep_with_proxies (registry : Registry) (proxies : Ledger ProxySigner) (scope : Scope)
    (signer : Signer) (message : Delegation) (signature : Bytes) :
    ((registry.withProxies proxies).keep scope signer message signature).answer =
        (registry.keep scope signer message signature).answer ∧
      ((registry.withProxies proxies).keep scope signer message signature).events =
        (registry.keep scope signer message signature).events := by
  rw [keep, keep]
  dsimp only
  split
  · exact ⟨rfl, rfl⟩
  · exact ⟨rfl, rfl⟩

-- A delegator signs as it would whatever the proxies are, and the new key is told by its entropy.
theorem create_proxy_with_proxies (registry : Registry) (proxies : Ledger ProxySigner)
    (scope : Scope) (entropy : Bytes) (delegator : Value) :
    ((registry.withProxies proxies).createProxy S scope entropy delegator).answer =
        (registry.createProxy S scope entropy delegator).answer ∧
      ((registry.withProxies proxies).createProxy S scope entropy delegator).events =
        (registry.createProxy S scope entropy delegator).events := by
  have agreed := same_consensus S (registry.withProxies proxies) registry rfl rfl
  rw [createProxy, createProxy]
  cases toPubkey delegator with
  | error fault => exact ⟨rfl, rfl⟩
  | ok key =>
      dsimp only
      split
      · exact ⟨rfl, rfl⟩
      · simp only [agreed.signed, agreed.reported, sign_keeps_registry]
        split
        · exact ⟨rfl, rfl⟩
        · next signer message _ _ signature _ =>
            obtain ⟨answers, events⟩ := keep_with_proxies registry proxies
              (delegatorScope scope key) signer message signature
            simp only [after, answers, events, and_self]

theorem sign_with_proxies (registry : Registry) (proxies : Ledger ProxySigner) (scope : Scope)
    (role : Role) (pubkey : Value) (message : Message)
    (untouched : role = .proxy → ∀ key, toPubkey pubkey = .ok key →
      proxies.get? key = registry.proxies.get? key) :
    ((registry.withProxies proxies).sign S scope role pubkey message).answer =
        (registry.sign S scope role pubkey message).answer ∧
      ((registry.withProxies proxies).sign S scope role pubkey message).events =
        (registry.sign S scope role pubkey message).events := by
  cases read : toPubkey pubkey with
  | error fault =>
      rw [sign_malformed S registry scope role pubkey message fault read,
        sign_malformed S (registry.withProxies proxies) scope role pubkey message fault read]
      exact ⟨rfl, rfl⟩
  | ok key =>
      have same : (registry.withProxies proxies).signer? role key = registry.signer? role key := by
        cases role with
        | proxy => exact congrArg (Option.map _) (untouched rfl key read)
        | _ => rfl
      cases found : registry.signer? role key with
      | none =>
          rw [sign_unknown S registry scope role pubkey message key read found,
            sign_unknown S (registry.withProxies proxies) scope role pubkey message key read
              (same.trans found)]
          exact ⟨rfl, rfl⟩
      | some signer =>
          rw [sign_known S registry scope role pubkey message key signer read found,
            sign_known S (registry.withProxies proxies) scope role pubkey message key signer read
              (same.trans found)]
          exact ⟨rfl, rfl⟩

-- The key that a request mints from its entropy, whether or not it comes to be stored.
def mintedKey? : Request → Option Bytes
  | .createProxy entropy _ => (Signer.ofEntropy S entropy).toOption.map (·.pubkey)
  | .sign _ _ _ => none

def mintedKeys (requests : List Request) : List Bytes := requests.filterMap (mintedKey? S)

-- The entry that a request stores.
def stored? (registry : Registry) (scope : Scope) (request : Request) : Option ProxySigner :=
  registry.proxyWrite? S (request.move scope)

theorem stored_minted (registry : Registry) (scope : Scope) (request : Request)
    (proxy : ProxySigner) (stored : registry.stored? S scope request = some proxy) :
    mintedKey? S request = some proxy.pubkey := by
  cases request with
  | sign role pubkey message => cases stored
  | createProxy entropy delegator =>
      obtain ⟨minting, _⟩ := create_proxy_write S registry scope entropy delegator proxy
        ((proxy_write_iff S registry _ proxy).mp stored)
      rw [mintedKey?, minting.minted]
      rfl

theorem stored_keys_minted (registry : Registry) (scope : Scope) (requests : List Request) :
    ((requests.filterMap (registry.stored? S scope)).map (·.pubkey)).Sublist
      (mintedKeys S requests) := by
  induction requests with
  | nil => exact .slnil
  | cons request rest ih =>
      rw [mintedKeys, List.filterMap_cons, List.filterMap_cons]
      cases stored : registry.stored? S scope request with
      | none =>
          cases mintedKey? S request with
          | none => exact ih
          | some key => exact ih.cons key
      | some proxy =>
          rw [stored_minted S registry scope request proxy stored]
          exact ih.cons_cons proxy.pubkey

theorem stored_with_proxies (registry : Registry) (proxies : Ledger ProxySigner) (scope : Scope)
    (request : Request) :
    (registry.withProxies proxies).stored? S scope request = registry.stored? S scope request := by
  cases request with
  | sign role pubkey message => rfl
  | createProxy entropy delegator =>
      obtain ⟨answers, _⟩ := registry.create_proxy_with_proxies S proxies scope entropy delegator
      simp only [stored?, proxyWrite?, write?, Request.move, answers]

-- What requests store, under the keys that it is stored under.
def entries (registry : Registry) (scope : Scope) (requests : List Request) : Ledger ProxySigner :=
  (requests.filterMap (registry.stored? S scope)).map fun proxy => (proxy.pubkey, proxy)

theorem next_request (registry : Registry) (scope : Scope) (request : Request) :
    registry.next S (request.move scope) =
      registry.withProxies (registry.proxies.record (registry.entries S scope [request])) := by
  cases request with
  | sign role pubkey message => exact sign_keeps_registry S registry scope role pubkey message
  | createProxy entropy delegator =>
      rcases create_proxy_cases S registry scope entropy delegator with
        ⟨fault, refused, same⟩ | ⟨proxy, minting, answered, same⟩
      · have unwritten := create_proxy_unwritten S registry scope entropy delegator fault refused
        simp only [entries, List.filterMap_cons, stored?, proxyWrite?, Request.move, unwritten]
        exact same
      · have written := create_proxy_written S registry scope entropy delegator proxy minting.minted
          answered
        simp only [entries, List.filterMap_cons, stored?, proxyWrite?, Request.move, written]
        exact same

end Registry

namespace Session

variable (S : Scheme)

def withProxies (session : Session) (proxies : Ledger ProxySigner) : Session :=
  { session with registry := session.registry.withProxies proxies }

-- A request that does not sign with any of the keys.
def Apart (keys : List Bytes) : Request → Prop
  | .sign .proxy pubkey _ => ∀ key, toPubkey pubkey = .ok key → key ∉ keys
  | _ => True

theorem apart_of_fewer (keys others : List Bytes) (fewer : others ⊆ keys) (request : Request)
    (apart : Apart keys request) : Apart others request := by
  cases request with
  | createProxy entropy delegator => trivial
  | sign role pubkey message =>
      cases role with
      | proxy =>
          intro key read held
          exact apart key read (fewer held)
      | _ => trivial

theorem serve_with_proxies (session : Session) (proxies : Ledger ProxySigner) (keys : List Bytes)
    (outside : ∀ key, key ∉ keys → proxies.get? key = session.registry.proxies.get? key)
    (request : Request) (apart : Apart keys request) :
    ((session.withProxies proxies).serve S request).2 = (session.serve S request).2 := by
  cases request with
  | createProxy entropy delegator =>
      obtain ⟨answers, events⟩ := session.registry.create_proxy_with_proxies S proxies session.scope
        entropy delegator
      exact congrArg₂ Response.mk (congrArg (Except.map _) answers)
        (congrArg session.report events)
  | sign role pubkey message =>
      obtain ⟨answers, events⟩ := session.registry.sign_with_proxies S proxies session.scope role
        pubkey message (by
          rintro rfl key read
          exact outside key (apart key read))
      exact congrArg₂ Response.mk (congrArg (Except.map _) answers)
        (congrArg session.report events)

theorem serve_stores (session : Session) (proxies : Ledger ProxySigner) (request : Request) :
    ((session.withProxies proxies).serve S request).1 =
      session.withProxies
        (proxies.record (session.registry.entries S session.scope [request])) := by
  have served : ((session.withProxies proxies).serve S request).1 =
      { session with
        registry :=
          (session.registry.withProxies proxies).next S (request.move session.scope) } := by
    cases request <;> rfl
  rw [served, Registry.next_request, Registry.entries, List.filterMap_cons,
    Registry.stored_with_proxies]
  rfl

/-! ## A batch -/

theorem record_outside (registry : Registry) (scope : Scope) (requests : List Request)
    (proxies : Ledger ProxySigner) (key : Bytes)
    (unminted : key ∉ Registry.mintedKeys S requests) :
    (proxies.record (registry.entries S scope requests)).get? key = proxies.get? key := by
  apply Ledger.get_record_absent
  intro stored
  rw [Registry.entries, List.map_map] at stored
  exact unminted ((registry.stored_keys_minted S scope requests).subset stored)

-- Served one after the other, each request is answered as if it stood alone: what the ones before
-- it have stored lies under keys that it does not look at.
theorem serve_all_with_proxies (session : Session) (keys : List Bytes) (requests : List Request)
    (apart : ∀ request ∈ requests, Apart keys request)
    (minted : Registry.mintedKeys S requests ⊆ keys) (proxies : Ledger ProxySigner)
    (outside : ∀ key, key ∉ keys → proxies.get? key = session.registry.proxies.get? key) :
    (session.withProxies proxies).serveAll S requests =
      (session.withProxies
          (proxies.record (session.registry.entries S session.scope requests)),
        requests.map fun request => (session.serve S request).2) := by
  induction requests generalizing proxies with
  | nil => rfl
  | cons request rest ih =>
      have headMinted : Registry.mintedKeys S [request] ⊆ keys := fun key member =>
        minted (List.Sublist.subset
          ((List.Sublist.cons_cons request (List.nil_sublist rest)).filterMap _) member)
      have restMinted : Registry.mintedKeys S rest ⊆ keys := fun key member =>
        minted (List.Sublist.subset ((List.sublist_cons_self request rest).filterMap _) member)
      have served := serve_stores S session proxies request
      have answered := serve_with_proxies S session proxies keys outside request
        (apart request List.mem_cons_self)
      have further := ih (fun other member => apart other (List.mem_cons_of_mem _ member))
        restMinted (proxies.record (session.registry.entries S session.scope [request])) (by
          intro key fresh
          rw [record_outside S session.registry session.scope [request] proxies key
            (fun member => fresh (headMinted member))]
          exact outside key fresh)
      have split : session.registry.entries S session.scope (request :: rest) =
          session.registry.entries S session.scope [request] ++
            session.registry.entries S session.scope rest := by
        rw [Registry.entries, Registry.entries, Registry.entries, ← List.map_append,
          ← List.filterMap_append, List.singleton_append]
      rw [split, Ledger.record, List.foldl_append]
      simp only [serveAll, served, answered, further, List.map_cons]
      rfl

theorem serve_all_apart (session : Session) (requests : List Request)
    (apart : ∀ request ∈ requests, Apart (Registry.mintedKeys S requests) request) :
    session.serveAll S requests =
      (session.withProxies (session.registry.proxies.record
          (session.registry.entries S session.scope requests)),
        requests.map fun request => (session.serve S request).2) :=
  serve_all_with_proxies S session _ requests apart (List.Subset.refl _) session.registry.proxies
    fun _ _ => rfl

def gathered (session : Session) (requests : List Request) : Session :=
  (session.perform S (.gather requests)).1

-- What a batch comes to, told request by request from the session before it.
structure Settles (session : Session) (requests : List Request) : Prop where
  answers : (session.perform S (.gather requests)).2.answer =
    .ok (.batch (requests.map fun request => (session.serve S request).2.answer))
  output : (session.perform S (.gather requests)).2.output =
    requests.flatMap fun request => (session.serve S request).2.output
  consensus : (session.gathered S requests).registry.consensus = session.registry.consensus
  unique : (session.gathered S requests).registry.proxies.keys.Nodup
  minted : ∀ key, key ∈ (session.gathered S requests).registry.proxies.keys →
    key ∈ session.registry.proxies.keys ∨ key ∈ Registry.mintedKeys S requests
  stored : ∀ entropy delegator d, .createProxy entropy delegator ∈ requests →
    (session.serve S (.createProxy entropy delegator)).2.answer = .ok (.delegation d) →
    ∃ signer, Signer.ofEntropy S entropy = .ok signer ∧ signer.pubkey = d.message.proxy ∧
      (session.gathered S requests).registry.proxies.get? d.message.proxy = some ⟨signer, d⟩

variable {S}

theorem gathered_proxies (session : Session) (requests : List Request)
    (apart : ∀ request ∈ requests, Apart (Registry.mintedKeys S requests) request) :
    (session.gathered S requests).registry.proxies =
      session.registry.proxies.record (session.registry.entries S session.scope requests) := by
  have served := serve_all_apart S session requests apart
  exact congrArg (fun outcome => outcome.1.registry.proxies) served

theorem entries_distinct (registry : Registry) (scope : Scope) (requests : List Request)
    (distinct : (Registry.mintedKeys S requests).Nodup) :
    ((registry.entries S scope requests).map (·.1)).Nodup := by
  rw [Registry.entries, List.map_map]
  exact (registry.stored_keys_minted S scope requests).nodup distinct

-- New keys in the order in which they are stored.
def newKeys (S : Scheme) (session : Session) (requests : List Request) : List Bytes :=
  ((session.registry.entries S session.scope requests).map (·.1)).filter
    fun key => key ∉ session.registry.proxies.keys

theorem gathered_keys (session : Session) (requests : List Request)
    (distinct : (Registry.mintedKeys S requests).Nodup)
    (apart : ∀ request ∈ requests, Apart (Registry.mintedKeys S requests) request) :
    (session.gathered S requests).registry.proxies.keys =
      session.registry.proxies.keys ++ newKeys S session requests := by
  rw [gathered_proxies session requests apart]
  exact Ledger.keys_record_distinct _ _
    (entries_distinct session.registry session.scope requests distinct)

theorem minted_entry (session : Session) (requests : List Request) (entropy : Bytes)
    (delegator : Value) (d : SignedDelegation)
    (asked : .createProxy entropy delegator ∈ requests)
    (answered : (session.serve S (.createProxy entropy delegator)).2.answer =
      .ok (.delegation d)) :
    ∃ signer, Signer.ofEntropy S entropy = .ok signer ∧ signer.pubkey = d.message.proxy ∧
      (d.message.proxy, ⟨signer, d⟩) ∈ session.registry.entries S session.scope requests := by
  obtain ⟨given, told, same⟩ := (map_ok_iff _ Reply.delegation _).mp answered
  cases same
  rcases Registry.create_proxy_cases S session.registry session.scope entropy delegator with
    ⟨fault, refused, _⟩ | ⟨proxy, minting, given, _⟩
  · cases refused.symm.trans told
  · cases given.symm.trans told
    have written := Registry.create_proxy_written S session.registry session.scope entropy delegator
      proxy minting.minted given
    have stored := (Registry.proxy_write_iff S _ _ proxy).mpr written
    refine ⟨proxy.signer, minting.minted, minting.named.symm, ?_⟩
    rw [minting.named]
    exact List.mem_map.mpr ⟨proxy, List.mem_filterMap.mpr ⟨_, asked, stored⟩, rfl⟩

theorem batch_settles (chain : Chain) (session : Session)
    (reached : Registry.Reachable S chain session.registry) (requests : List Request)
    (distinct : (Registry.mintedKeys S requests).Nodup)
    (apart : ∀ request ∈ requests, Apart (Registry.mintedKeys S requests) request) :
    Settles S session requests where
  answers := by
    have served := congrArg Prod.snd (serve_all_apart S session requests apart)
    change Except.ok (Reply.batch (((session.serveAll S requests).2).map (·.answer))) = _
    rw [served, List.map_map]
    rfl
  output := by
    have served := congrArg Prod.snd (serve_all_apart S session requests apart)
    change ((session.serveAll S requests).2).flatMap (·.output) = _
    rw [served, List.flatMap_map]
  consensus :=
    congrArg (fun outcome => outcome.1.registry.consensus)
      (serve_all_apart S session requests apart)
  unique := by
    obtain ⟨moves, reaches⟩ := serve_all_moves S session requests
    have consistent := Registry.reach_consistent session.registry moves
      (Registry.reachable_consistent chain session.registry reached)
    rw [← reaches] at consistent
    exact consistent.proxiesUnique
  minted := by
    intro key held
    rw [gathered_keys session requests distinct apart] at held
    refine (List.mem_append.mp held).imp id fun fresh => ?_
    have stored := (List.mem_filter.mp fresh).1
    rw [Registry.entries, List.map_map] at stored
    exact (session.registry.stored_keys_minted S session.scope requests).subset stored
  stored := by
    intro entropy delegator d asked answered
    obtain ⟨signer, made, named, member⟩ :=
      minted_entry session requests entropy delegator d asked answered
    rw [gathered_proxies session requests apart]
    exact ⟨signer, made, named, Ledger.get_record_member _ _ _ _
      (entries_distinct session.registry session.scope requests distinct) member⟩

-- The holder mints two proxies, signs itself, and is asked to sign as a proxy.
def together : List Request :=
  [.createProxy Recorded.entropy (.bytes Recorded.holderKey),
    .sign .consensus (.buffer Recorded.holderKey) (.root (Bytes.zeros 32)),
    .sign .proxy (.bytes Recorded.holderKey) (.root []),
    .createProxy Recorded.laterEntropy (.bytes Recorded.holderKey)]

def holding : Session :=
  { start .mainnet with
    registry := (Registry.empty .mainnet).reach Recorded.scheme Recorded.early }

theorem gather_order_independent (chain : Chain) (session : Session)
    (reached : Registry.Reachable S chain session.registry) (requests others : List Request)
    (permuted : requests.Perm others) (distinct : (Registry.mintedKeys S requests).Nodup)
    (apart : ∀ request ∈ requests, Apart (Registry.mintedKeys S requests) request) :
    Settles S session requests ∧ Settles S session others ∧
    (∀ key, (session.gathered S requests).registry.proxies.get? key =
      (session.gathered S others).registry.proxies.get? key) ∧
    ∃ fresh otherFresh,
      (session.gathered S requests).registry.proxies.keys =
          session.registry.proxies.keys ++ fresh ∧
        (session.gathered S others).registry.proxies.keys =
          session.registry.proxies.keys ++ otherFresh ∧
        fresh.Perm otherFresh := by
  have minted : (Registry.mintedKeys S requests).Perm (Registry.mintedKeys S others) :=
    permuted.filterMap _
  have otherDistinct := minted.nodup_iff.mp distinct
  have otherApart : ∀ request ∈ others, Apart (Registry.mintedKeys S others) request :=
    fun request member => apart_of_fewer _ _ minted.symm.subset request
      (apart request (permuted.mem_iff.mpr member))
  have entries : (session.registry.entries S session.scope requests).Perm
      (session.registry.entries S session.scope others) :=
    (permuted.filterMap _).map _
  refine ⟨batch_settles chain session reached requests distinct apart,
    batch_settles chain session reached others otherDistinct otherApart, ?_,
    newKeys S session requests, newKeys S session others,
    gathered_keys session requests distinct apart,
    gathered_keys session others otherDistinct otherApart, (entries.map _).filter _⟩
  intro key
  rw [gathered_proxies session requests apart, gathered_proxies session others otherApart]
  exact Ledger.get_record_permuted _ _ _
    (entries_distinct session.registry session.scope requests distinct) entries key

theorem recorded_gather_order_independent :
    (Registry.mintedKeys Recorded.scheme together).Nodup ∧
      (holding.gathered Recorded.scheme together).registry.proxies.keys =
        [Recorded.proxyKey, Recorded.laterKey] ∧
      (holding.gathered Recorded.scheme together.reverse).registry.proxies.keys =
        [Recorded.laterKey, Recorded.proxyKey] ∧
      Settles Recorded.scheme holding together.reverse ∧
      ∀ key, (holding.gathered Recorded.scheme together).registry.proxies.get? key =
        (holding.gathered Recorded.scheme together.reverse).registry.proxies.get? key := by
  have distinct : (Registry.mintedKeys Recorded.scheme together).Nodup := by decide +kernel
  have apart : ∀ request ∈ together, Apart (Registry.mintedKeys Recorded.scheme together)
      request := by
    intro request member
    simp only [together, List.mem_cons, List.not_mem_nil, or_false] at member
    rcases member with rfl | rfl | rfl | rfl
    · trivial
    · trivial
    · intro key read
      rw [to_pubkey_raw Recorded.holderKey (Bytes.length_big_endian _ _)] at read
      cases read
      decide +kernel
    · trivial
  obtain ⟨_, settles, same, _⟩ := gather_order_independent .mainnet holding ⟨Recorded.early, rfl⟩
    together together.reverse (List.reverse_perm together).symm distinct apart
  exact ⟨distinct, by decide +kernel, by decide +kernel, settles, same⟩

end Session

end KeyCustody
