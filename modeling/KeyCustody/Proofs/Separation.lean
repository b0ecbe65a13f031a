import KeyCustody.Proofs.Binding
import KeyCustody.Proofs.Recorded
import KeyCustody.Proofs.SigningRoot
import Mathlib.Data.List.Nodup

/-!
Separation of signatures: the root that is signed tells the chain and the message apart from every
other chain and message, as far as no two different strings hashed for it have the same digest.
-/

set_option autoImplicit false

namespace KeyCustody

open Merkle

theorem builder_domains_distinct :
    (Chain.all.map fun chain => chain.builderDomain.toOption).Nodup := by
  decide +kernel

theorem chain_listed (chain : Chain) : chain ∈ Chain.all := by
  cases chain <;> decide

theorem builder_domain_injective (chain other : Chain)
    (same : chain.builderDomain = other.builderDomain) : chain = other :=
  List.inj_on_of_nodup_map builder_domains_distinct (chain_listed chain) (chain_listed other)
    (congrArg Except.toOption same)

/-! ## Roots of messages -/

def Delegation.hashed (d : Delegation) : List Bytes := recordHashed d.delegator d.proxy

def Delegation.swapped (d : Delegation) : Delegation := ⟨d.proxy, d.delegator⟩

theorem delegation_root_binds (d other : Delegation) (sized : d.Sized) (otherSized : other.Sized)
    (same : d.root = other.root) : d = other ∨ Collision d.hashed other.hashed := by
  rw [delegation_root_top, delegation_root_top] at same
  have delegators : d.delegator.length = other.delegator.length := sized.1.trans otherSized.1.symm
  have proxies : d.proxy.length = other.proxy.length := sized.2.trans otherSized.2.symm
  rcases record_top_binds _ _ _ _ delegators proxies (Except.ok.inj same) with
    ⟨delegator, proxy⟩ | collision
  · cases d
    cases other
    cases delegator
    cases proxy
    exact Or.inl rfl
  · exact Or.inr collision

-- The strings hashed for the root of a slot's commitment.
def slotHashed (slot : Int) (payload : Bytes) : List Bytes :=
  recordHashed (Bytes.littleEndian 8 slot.toNat) payload

theorem slot_root_binds (slot other : Int) (payload otherPayload : Bytes)
    (nonnegative : 0 ≤ slot) (bounded : slot < Message.slotBound)
    (otherNonnegative : 0 ≤ other) (otherBounded : other < Message.slotBound)
    (payloads : payload.length = otherPayload.length)
    (same : (Message.slot slot payload).treeRoot = (Message.slot other otherPayload).treeRoot) :
    (slot = other ∧ payload = otherPayload) ∨
      Collision (slotHashed slot payload) (slotHashed other otherPayload) := by
  rw [slot_root_top slot payload nonnegative bounded,
    slot_root_top other otherPayload otherNonnegative otherBounded] at same
  have numbers : (Bytes.littleEndian 8 slot.toNat).length =
      (Bytes.littleEndian 8 other.toNat).length := by
    rw [Bytes.length_little_endian, Bytes.length_little_endian]
  rcases record_top_binds _ _ _ _ numbers payloads (Except.ok.inj same) with
    ⟨number, payload⟩ | collision
  · simp only [Message.slotBound] at bounded otherBounded
    have naturals := little_endian_injective 8 slot.toNat other.toNat (by omega) (by omega) number
    exact Or.inl ⟨by omega, payload⟩
  · exact Or.inr collision

/-! ## Signing roots -/

theorem signing_root_top (root domain : Bytes) (rootSize : root.length = chunkSize)
    (domainSize : domain.length = chunkSize) : signingRoot root domain = .ok (top [root, domain]) :=
  root_top _ (pair_chunks root domain rootSize domainSize)

theorem signing_root_binds_chunks (root domain otherRoot otherDomain : Bytes)
    (rootSize : root.length = chunkSize) (domainSize : domain.length = chunkSize)
    (otherSize : otherRoot.length = chunkSize) (otherDomainSize : otherDomain.length = chunkSize)
    (same : signingRoot root domain = signingRoot otherRoot otherDomain) :
    (root = otherRoot ∧ domain = otherDomain) ∨
      Collision [root ++ domain] [otherRoot ++ otherDomain] := by
  rw [signing_root_top root domain rootSize domainSize,
    signing_root_top otherRoot otherDomain otherSize otherDomainSize, top_pair, top_pair] at same
  exact chunk_pair root domain otherRoot otherDomain (pair_chunks _ _ rootSize domainSize)
    (pair_chunks _ _ otherSize otherDomainSize) (Except.ok.inj same)

-- What equal signing roots on two chains say about the roots that went into them. The last string
-- hashed on either side comes first among those that may collide.
structure Bound (chain other : Chain) (root otherRoot last otherLast : Bytes) : Prop where
  roots : (chain = other ∧ root = otherRoot) ∨ Collision [last] [otherLast]
  delegations (d e : Delegation) : d.Sized → e.Sized → d.root = .ok root → e.root = .ok otherRoot →
    (chain = other ∧ d.delegator = e.delegator ∧ d.proxy = e.proxy) ∨
      Collision (last :: d.hashed) (otherLast :: e.hashed)
  swaps (d : Delegation) : d.Sized → d.delegator ≠ d.proxy → d.root = .ok root →
    d.swapped.root = .ok otherRoot → Collision (last :: d.hashed) (otherLast :: d.swapped.hashed)
  slots (slot otherSlot : Int) (payload otherPayload : Bytes) :
    0 ≤ slot → slot < Message.slotBound → 0 ≤ otherSlot → otherSlot < Message.slotBound →
    payload.length = chunkSize → otherPayload.length = chunkSize →
    (Message.slot slot payload).treeRoot = .ok root →
    (Message.slot otherSlot otherPayload).treeRoot = .ok otherRoot →
    (chain = other ∧ slot = otherSlot ∧ payload = otherPayload) ∨
      Collision (last :: slotHashed slot payload) (otherLast :: slotHashed otherSlot otherPayload)

-- Where the roots differ there is a collision above them; equal roots bind what they are made of.
theorem bound_below (chain other : Chain) (root otherRoot last otherLast : Bytes)
    (hashed otherHashed : List Bytes) (equal : Prop)
    (roots : (chain = other ∧ root = otherRoot) ∨ Collision [last] [otherLast])
    (below : root = otherRoot → equal ∨ Collision hashed otherHashed) :
    (chain = other ∧ equal) ∨ Collision (last :: hashed) (otherLast :: otherHashed) := by
  rcases roots with ⟨chains, same⟩ | collision
  · rcases below same with equal | collision
    · exact Or.inl ⟨chains, equal⟩
    · exact Or.inr (collision.widen _ _ _ _ (List.subset_cons_self _ _)
        (List.subset_cons_self _ _))
  · exact Or.inr (collision.widen _ _ _ _ (by simp) (by simp))

theorem delegations_bound (chain other : Chain) (root otherRoot last otherLast : Bytes)
    (roots : (chain = other ∧ root = otherRoot) ∨ Collision [last] [otherLast])
    (d e : Delegation) (sized : d.Sized) (otherSized : e.Sized) (rooted : d.root = .ok root)
    (otherRooted : e.root = .ok otherRoot) :
    (chain = other ∧ d.delegator = e.delegator ∧ d.proxy = e.proxy) ∨
      Collision (last :: d.hashed) (otherLast :: e.hashed) := by
  apply bound_below chain other root otherRoot last otherLast _ _ _ roots
  intro same
  rcases delegation_root_binds d e sized otherSized (by rw [rooted, otherRooted, same]) with
    rfl | collision
  · exact Or.inl ⟨rfl, rfl⟩
  · exact Or.inr collision

theorem bound_of_roots (chain other : Chain) (root otherRoot last otherLast : Bytes)
    (roots : (chain = other ∧ root = otherRoot) ∨ Collision [last] [otherLast]) :
    Bound chain other root otherRoot last otherLast where
  roots := roots
  delegations := delegations_bound chain other root otherRoot last otherLast roots
  swaps d sized distinct rooted otherRooted := by
    rcases delegations_bound chain other root otherRoot last otherLast roots d d.swapped sized
      sized.symm rooted otherRooted with ⟨_, delegators, _⟩ | collision
    · exact absurd delegators distinct
    · exact collision
  slots slot otherSlot payload otherPayload nonnegative bounded otherNonnegative otherBounded size
      otherSize rooted otherRooted := by
    apply bound_below chain other root otherRoot last otherLast _ _ _ roots
    intro same
    exact slot_root_binds slot otherSlot payload otherPayload nonnegative bounded otherNonnegative
      otherBounded (size.trans otherSize.symm) (by rw [rooted, otherRooted, same])

theorem signing_root_binds (chain other : Chain) (domain otherDomain root otherRoot : Bytes)
    (found : chain.builderDomain = .ok domain) (otherFound : other.builderDomain = .ok otherDomain)
    (rootSize : root.length = chunkSize) (otherSize : otherRoot.length = chunkSize) :
    (∃ node, signingRoot root domain = .ok node) ∧
      (∃ node, signingRoot otherRoot otherDomain = .ok node) ∧
      (signingRoot root domain = signingRoot otherRoot otherDomain →
        Bound chain other root otherRoot (root ++ domain) (otherRoot ++ otherDomain)) := by
  have domainSize := builder_domain_length chain domain found
  have otherDomainSize := builder_domain_length other otherDomain otherFound
  refine ⟨⟨_, signing_root_top root domain rootSize domainSize⟩,
    ⟨_, signing_root_top otherRoot otherDomain otherSize otherDomainSize⟩, fun same => ?_⟩
  apply bound_of_roots
  rcases signing_root_binds_chunks root domain otherRoot otherDomain rootSize domainSize otherSize
    otherDomainSize same with ⟨roots, rfl⟩ | collision
  · exact Or.inl ⟨builder_domain_injective chain other (found.trans otherFound.symm), roots⟩
  · exact Or.inr collision

def mainnetDomain : Bytes := Bytes.bigEndian 32
  0x00000001f5a5fd42d16a20302798ef6ed309979b43003d2320d9f0e8ea9831a9

def holeskyDomain : Bytes := Bytes.bigEndian 32
  0x000000015b83a23759c560b2d0c64576e1dcfc34ea94c4988f3e0d9f77f05387

-- The root of the recorded delegation, and of the one with its keys in each other's place.
def givenRoot : Bytes := Bytes.bigEndian 32
  0x878a186a66d8c9207a87de6ff3fa5d286e7aab32f5bb9aafbfa47bd0c7cf4d0a

def swappedRoot : Bytes := Bytes.bigEndian 32
  0x72f24115025c8ede2869bc06aa22b7796a10ec7600429455b640ede719a61098

open Recorded in
-- None of the strings hashed for these roots collide, so each signing root is another one.
theorem recorded_signing_roots_differ :
    Bound .mainnet .mainnet givenRoot givenRoot (givenRoot ++ mainnetDomain)
        (givenRoot ++ mainnetDomain) ∧
      signingRoot givenRoot mainnetDomain ≠ signingRoot givenRoot holeskyDomain ∧
      signingRoot givenRoot mainnetDomain ≠ signingRoot swappedRoot mainnetDomain := by
  have mainnet : Chain.mainnet.builderDomain = .ok mainnetDomain :=
    ok_of_to_option _ _ (by decide +kernel)
  have holesky : Chain.holesky.builderDomain = .ok holeskyDomain :=
    ok_of_to_option _ _ (by decide +kernel)
  have given : delegation.root = .ok givenRoot := ok_of_to_option _ _ (by decide +kernel)
  have swapped : delegation.swapped.root = .ok swappedRoot :=
    ok_of_to_option _ _ (by decide +kernel)
  have sized : delegation.Sized := by decide +kernel
  refine ⟨?_, fun same => ?_, fun same => ?_⟩
  · exact (signing_root_binds .mainnet .mainnet _ _ givenRoot givenRoot mainnet mainnet rfl rfl).2.2
      rfl
  · have bound := (signing_root_binds .mainnet .holesky _ _ givenRoot givenRoot mainnet holesky rfl
      rfl).2.2 same
    rcases bound.roots with ⟨chains, _⟩ | collision
    · cases chains
    · exact absurd collision (by decide +kernel)
  · have bound := (signing_root_binds .mainnet .mainnet _ _ givenRoot swappedRoot mainnet mainnet
      rfl rfl).2.2 same
    exact absurd (bound.swaps delegation sized (by decide +kernel) given swapped)
      (by decide +kernel)

end KeyCustody
