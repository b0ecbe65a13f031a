import KeyCustody.Proofs.Signatures

/-!
The history of the proxies. What is stored under a proxy key is what its latest write put there, and
a delegation that a latest write minted verifies for as long as the registry is used.
-/

set_option autoImplicit false

namespace KeyCustody.Registry

section Writes

variable (S : Scheme)

-- A write to the proxies, with the registry that it was made in and the move that made it.
structure ProxyWrite where
  before : Registry
  move : Move
  proxy : ProxySigner

def proxyWrite? (registry : Registry) (move : Move) : Option ProxySigner :=
  (registry.write? S move).bind Write.proxy?

def lastProxyWrite? (registry : Registry) (key : Bytes) : List Move → Option ProxyWrite
  | [] => none
  | move :: rest =>
    let written := (registry.proxyWrite? S move).filter fun proxy => proxy.pubkey = key
    (lastProxyWrite? (registry.next S move) key rest).or
      (written.map fun proxy => ⟨registry, move, proxy⟩)

theorem proxy_write_iff (registry : Registry) (move : Move) (proxy : ProxySigner) :
    registry.proxyWrite? S move = some proxy ↔ registry.write? S move = some (.proxy proxy) := by
  rw [proxyWrite?]
  rcases registry.write? S move with _ | ⟨signer⟩ | ⟨stored⟩ <;> simp [Write.proxy?]

theorem add_consensus_writes_no_proxy (registry : Registry) (scope : Scope) (source : KeySource) :
    registry.proxyWrite? S ⟨scope, .addConsensus source⟩ = none := by
  cases made : source.signer S <;> simp only [proxyWrite?, write?, made] <;> rfl

theorem create_proxy_write (registry : Registry) (scope : Scope) (entropy : Bytes)
    (delegator : Value) (proxy : ProxySigner)
    (written : registry.write? S ⟨scope, .createProxy entropy delegator⟩ = some (.proxy proxy)) :
    Minting S registry entropy delegator proxy ∧
      (registry.createProxy S scope entropy delegator).answer = .ok proxy.delegation := by
  rcases create_proxy_cases S registry scope entropy delegator with
    ⟨fault, refused, _⟩ | ⟨stored, minting, answered, _⟩
  · rw [create_proxy_unwritten S registry scope entropy delegator fault refused] at written
    cases written
  · rw [create_proxy_written S registry scope entropy delegator stored minting.minted answered]
      at written
    cases written
    exact ⟨minting, answered⟩

theorem next_proxies (registry : Registry) (move : Move) :
    (registry.next S move).proxies =
      match registry.proxyWrite? S move with
      | none => registry.proxies
      | some proxy => registry.proxies.put proxy.pubkey proxy :=
  effect_proxies S registry _ _ (perform_effect S registry move)

theorem reach_proxy (registry : Registry) (key : Bytes) (moves : List Move) :
    (registry.reach S moves).proxies.get? key =
      ((registry.lastProxyWrite? S key moves).map (·.proxy)).or (registry.proxies.get? key) := by
  induction moves generalizing registry with
  | nil => rfl
  | cons move rest ih =>
      refine (ih (registry.next S move)).trans ?_
      rw [next_proxies, lastProxyWrite?]
      cases (registry.next S move).lastProxyWrite? S key rest with
      | some later => rfl
      | none =>
          cases registry.proxyWrite? S move with
          | none => rfl
          | some proxy =>
              by_cases same : proxy.pubkey = key <;> simp [Ledger.get_put, Option.filter, same]

-- A latest write is a move of the run, made where the moves before it lead, and no move after it
-- writes the key.
theorem last_proxy_write_iff (registry : Registry) (key : Bytes) (moves : List Move)
    (write : ProxyWrite) :
    registry.lastProxyWrite? S key moves = some write ↔
      ∃ earlier later, moves = earlier ++ write.move :: later ∧
        registry.reach S earlier = write.before ∧
        write.before.proxyWrite? S write.move = some write.proxy ∧ write.proxy.pubkey = key ∧
        (write.before.next S write.move).lastProxyWrite? S key later = none := by
  constructor
  · intro last
    induction moves generalizing registry with
    | nil => cases last
    | cons move rest ih =>
        rw [lastProxyWrite?] at last
        cases further : (registry.next S move).lastProxyWrite? S key rest with
        | some later =>
            rw [further] at last
            cases last
            obtain ⟨earlier, later, rfl, led, written⟩ := ih (registry.next S move) further
            exact ⟨move :: earlier, later, rfl, led, written⟩
        | none =>
            rw [further, Option.none_or] at last
            obtain ⟨proxy, kept, rfl⟩ := Option.map_eq_some_iff.mp last
            obtain ⟨written, owned⟩ := Option.filter_eq_some_iff.mp kept
            exact ⟨[], rest, rfl, rfl, written, of_decide_eq_true owned, further⟩
  · rintro ⟨earlier, later, rfl, led, written, owned, unwritten⟩
    induction earlier generalizing registry with
    | nil =>
        cases led
        rw [List.nil_append, lastProxyWrite?, unwritten, written, Option.none_or]
        have kept : (some write.proxy).filter (fun proxy => proxy.pubkey = key) =
            some write.proxy :=
          Option.filter_eq_some_iff.mpr ⟨rfl, decide_eq_true owned⟩
        exact Option.map_eq_some_iff.mpr ⟨write.proxy, kept, rfl⟩
    | cons move rest ih =>
        rw [List.cons_append, lastProxyWrite?, ih (registry.next S move) led]
        rfl

end Writes

variable {S : Scheme}

theorem minting_verifies (honest : S.Honest) (registry : Registry)
    (consistent : registry.Consistent S) (entropy : Bytes) (delegator : Value)
    (proxy : ProxySigner) (minting : Minting S registry entropy delegator proxy) :
    proxy.delegation.message.delegator ∈ registry.consensus.keys ∧
      proxy.delegation.verify S registry.chain = .ok true := by
  obtain ⟨holder, held, signed⟩ := minting.signed
  have present := (registry.consensus.get_is_some_iff _).mp ⟨holder, held⟩
  obtain ⟨named, made⟩ := consistent.consensus_signer registry _ holder held
  obtain ⟨secret, _, derived, same⟩ := Signer.made_signs holder made registry.chain
    (.delegation proxy.delegation.message)
  rw [same] at signed
  rw [named] at derived
  exact ⟨present, signed_message_verifies honest registry.chain secret _ _ _ derived signed⟩

-- What a minted delegation is to a registry, however long ago it was minted.
structure Lasting (S : Scheme) (registry : Registry) (key : Bytes) (delegator : Value)
    (d : SignedDelegation) : Prop where
  told : registry.getDelegation (.bytes key) = .ok d
  read : ∀ pubkey, toPubkey pubkey = .ok key → registry.getDelegation pubkey = .ok d
  named : d.message.proxy = key
  delegated : toPubkey delegator = .ok d.message.delegator
  held : d.message.delegator ∈ registry.consensus.keys
  verified : d.verify S registry.chain = .ok true

theorem last_write_stored (chain : Chain) (key : Bytes) (moves : List Move) (write : ProxyWrite)
    (last : (empty chain).lastProxyWrite? S key moves = some write) :
    ((empty chain).reach S moves).proxies.get? key = some write.proxy := by
  rw [reach_proxy, last]
  rfl

theorem stored_last_write (chain : Chain) (key : Bytes) (moves : List Move)
    (stored : key ∈ ((empty chain).reach S moves).proxies.keys) :
    ∃ write, (empty chain).lastProxyWrite? S key moves = some write := by
  obtain ⟨proxy, found⟩ := (((empty chain).reach S moves).proxies.get_is_some_iff key).mpr stored
  rw [reach_proxy] at found
  cases last : (empty chain).lastProxyWrite? S key moves with
  | none =>
      rw [last] at found
      cases found
  | some write => exact ⟨write, rfl⟩

-- Nothing is taken out of a registry and its chain stays, so what held when the key was minted
-- still holds after the moves that followed.
theorem last_write_lasts (honest : S.Honest) (chain : Chain) (key : Bytes) (moves : List Move)
    (write : ProxyWrite) (entropy : Bytes) (delegator : Value)
    (last : (empty chain).lastProxyWrite? S key moves = some write)
    (minted : write.move.action = .createProxy entropy delegator) :
    (write.before.createProxy S write.move.scope entropy delegator).answer =
        .ok write.proxy.delegation ∧
      Lasting S ((empty chain).reach S moves) key delegator write.proxy.delegation := by
  have stored := last_write_stored chain key moves write last
  obtain ⟨earlier, later, rfl, led, written, owned, _⟩ :=
    (last_proxy_write_iff S (empty chain) key moves write).mp last
  obtain ⟨before, ⟨scope, action⟩, proxy⟩ := write
  cases minted
  cases led
  cases owned
  obtain ⟨minting, answered⟩ := create_proxy_write S _ scope entropy delegator proxy
    ((proxy_write_iff S _ _ proxy).mp written)
  obtain ⟨held, verified⟩ := minting_verifies honest _
    (reach_consistent (empty chain) earlier (empty_consistent chain)) entropy delegator proxy
    minting
  rw [reach_append] at stored ⊢
  refine ⟨answered, ?_, ?_, minting.named, minting.delegated, ?_, ?_⟩
  · exact (get_delegation_iff _ _ _).mpr
      ⟨_, proxy, to_pubkey_raw _ minting.sized, stored, rfl⟩
  · intro pubkey read
    exact (get_delegation_iff _ _ _).mpr ⟨_, proxy, read, stored, rfl⟩
  · exact (reach_consensus_keys S _ _).subset held
  · rw [reach_chain]
    exact verified

theorem minted_delegations_verify (honest : S.Honest) (chain : Chain) (moves : List Move)
    (allMinted : ∀ key write, (empty chain).lastProxyWrite? S key moves = some write →
      ∃ entropy delegator, write.move.action = .createProxy entropy delegator)
    (d : SignedDelegation) (member : d ∈ ((empty chain).reach S moves).delegations) :
    d.verify S chain = .ok true := by
  have consistent : ((empty chain).reach S moves).Consistent S :=
    reach_consistent (empty chain) moves (empty_consistent chain)
  obtain ⟨⟨key, proxy⟩, entry, rfl⟩ := List.mem_map.mp member
  have found := Ledger.member_get _ key proxy consistent.proxiesUnique entry
  obtain ⟨write, last⟩ :=
    stored_last_write chain key moves (List.mem_map.mpr ⟨(key, proxy), entry, rfl⟩)
  obtain ⟨entropy, delegator, minted⟩ := allMinted key write last
  have stored := last_write_stored chain key moves write last
  rw [found] at stored
  cases stored
  have verified := (last_write_lasts honest chain key moves write entropy delegator last
    minted).2.verified
  rw [reach_chain] at verified
  exact verified

theorem minted_delegation_lasts (honest : S.Honest) (chain : Chain) (moves : List Move) :
    ((empty chain).reach S moves).chain = chain ∧
    (∀ key write entropy delegator,
      (empty chain).lastProxyWrite? S key moves = some write →
      write.move.action = .createProxy entropy delegator →
      (∃ earlier later, moves = earlier ++ write.move :: later ∧
        (empty chain).reach S earlier = write.before) ∧
      (write.before.createProxy S write.move.scope entropy delegator).answer =
        .ok write.proxy.delegation ∧
      Lasting S ((empty chain).reach S moves) key delegator write.proxy.delegation) ∧
    ((∀ key write, (empty chain).lastProxyWrite? S key moves = some write →
        ∃ entropy delegator, write.move.action = .createProxy entropy delegator) →
      ∀ d ∈ ((empty chain).reach S moves).delegations, d.verify S chain = .ok true) := by
  refine ⟨reach_chain S (empty chain) moves, ?_, minted_delegations_verify honest chain moves⟩
  intro key write entropy delegator last minted
  obtain ⟨earlier, later, split, led, _⟩ :=
    (last_proxy_write_iff S (empty chain) key moves write).mp last
  obtain ⟨answered, lasting⟩ :=
    last_write_lasts honest chain key moves write entropy delegator last minted
  exact ⟨⟨earlier, later, split, led⟩, answered, lasting⟩

theorem recorded_delegation_lasts :
    (∃ write, (empty .mainnet).lastProxyWrite? Recorded.scheme Recorded.proxyKey
        (Recorded.early ++ Recorded.mint :: Recorded.late) = some write ∧
      write.proxy.delegation = ⟨Recorded.delegation, Recorded.signature⟩) ∧
    Lasting Recorded.scheme Recorded.registry Recorded.proxyKey
      (.text (Text.ofChars (Hex.encode Recorded.holderKey)))
      ⟨Recorded.delegation, Recorded.signature⟩ ∧
    ∀ d ∈ Recorded.registry.delegations, d.verify Recorded.scheme .mainnet = .ok true := by
  obtain ⟨_, lasts, verifies⟩ := minted_delegation_lasts Recorded.honest .mainnet
    (Recorded.early ++ Recorded.mint :: Recorded.late)
  let signer : Signer := ⟨.plain Recorded.proxySecret, Recorded.proxyKey⟩
  let given : SignedDelegation := ⟨Recorded.delegation, Recorded.signature⟩
  let before := (empty .mainnet).reach Recorded.scheme Recorded.early
  have made : Signer.ofEntropy Recorded.scheme Recorded.entropy = .ok signer := rfl
  have answered := ok_of_to_option (before.createProxy Recorded.scheme .empty Recorded.entropy
    (.text (Text.ofChars (Hex.encode Recorded.holderKey)))).answer given (by decide +kernel)
  have written := (proxy_write_iff Recorded.scheme before Recorded.mint ⟨signer, given⟩).mpr
    (create_proxy_written Recorded.scheme before .empty Recorded.entropy
      (.text (Text.ofChars (Hex.encode Recorded.holderKey))) ⟨signer, given⟩ made answered)
  have last := (last_proxy_write_iff Recorded.scheme (empty .mainnet) Recorded.proxyKey
    (Recorded.early ++ Recorded.mint :: Recorded.late)
    ⟨before, Recorded.mint, ⟨signer, given⟩⟩).mpr
    ⟨Recorded.early, Recorded.late, rfl, rfl, written, rfl, rfl⟩
  refine ⟨⟨_, last, rfl⟩, (lasts _ _ _ _ last rfl).2.2, verifies ?_⟩
  -- The other moves of the run register the holder, and that writes no proxy.
  intro key write latest
  obtain ⟨earlier, later, split, _, stored, _⟩ :=
    (last_proxy_write_iff Recorded.scheme _ key _ write).mp latest
  have member : write.move ∈ Recorded.early ++ Recorded.mint :: Recorded.late := by
    rw [split]
    exact List.mem_append_right _ List.mem_cons_self
  simp only [Recorded.early, Recorded.late, List.cons_append, List.nil_append, List.mem_cons,
    List.not_mem_nil, or_false] at member
  rcases member with same | same | same | same
  · exact ⟨_, _, congrArg Move.action same⟩
  · rw [same, add_consensus_writes_no_proxy] at stored
    cases stored
  · exact ⟨_, _, congrArg Move.action same⟩
  · rw [same, add_consensus_writes_no_proxy] at stored
    cases stored

end KeyCustody.Registry
