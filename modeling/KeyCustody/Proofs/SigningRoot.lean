import KeyCustody.Proofs.Merkle
import KeyCustody.Signature.Scheme

/-!
Signing roots: every chain has a domain, and a message has a signing root on a chain exactly if its
own root is a chunk.
-/

set_option autoImplicit false

namespace KeyCustody

open Merkle

theorem fork_data_root_exists (forkVersion validatorsRoot : Bytes) :
    ∃ node, forkDataRoot forkVersion validatorsRoot = .ok node ∧ node.length = chunkSize :=
  ⟨_, record_root_top forkVersion validatorsRoot, record_top_length forkVersion validatorsRoot⟩

theorem compute_domain_exists (domainType forkVersion validatorsRoot : Bytes)
    (typeSize : domainType.length = 4) (versionSize : forkVersion.length = 4) :
    ∃ domain, computeDomain domainType forkVersion validatorsRoot = .ok domain ∧
      domain.length = chunkSize := by
  obtain ⟨node, found, size⟩ := fork_data_root_exists forkVersion validatorsRoot
  refine ⟨domainType ++ node.take 28, ?_, ?_⟩
  · rw [computeDomain, if_neg (by omega), found]
    rfl
  · rw [List.length_append, List.length_take, typeSize, size]
    rfl

theorem builder_domain_exists (chain : Chain) :
    ∃ domain, chain.builderDomain = .ok domain ∧ domain.length = chunkSize := by
  apply compute_domain_exists
  · rfl
  · cases chain <;> rfl

theorem builder_domain_length (chain : Chain) (domain : Bytes)
    (found : chain.builderDomain = .ok domain) : domain.length = chunkSize := by
  obtain ⟨other, same, size⟩ := builder_domain_exists chain
  rw [same] at found
  cases found
  exact size

theorem delegation_root_top (d : Delegation) : d.root = .ok (recordTop d.delegator d.proxy) :=
  record_root_top d.delegator d.proxy

theorem delegation_root_exists (d : Delegation) :
    ∃ node, d.root = .ok node ∧ node.length = chunkSize :=
  ⟨_, delegation_root_top d, record_top_length d.delegator d.proxy⟩

theorem slot_root_top (slot : Int) (payload : Bytes) (nonnegative : 0 ≤ slot)
    (bounded : slot < Message.slotBound) :
    (Message.slot slot payload).treeRoot =
      .ok (recordTop (Bytes.littleEndian 8 slot.toNat) payload) := by
  rw [Message.treeRoot, Message.slotBytes, if_neg (by omega), if_neg (by omega)]
  exact record_root_top (Bytes.littleEndian 8 slot.toNat) payload

theorem message_signing_root_exists (chain : Chain) (message : Message) (root : Bytes)
    (rooted : message.treeRoot = .ok root) (size : root.length = chunkSize) :
    ∃ node, messageSigningRoot chain message = .ok node ∧ node.length = chunkSize := by
  obtain ⟨domain, found, domainSize⟩ := builder_domain_exists chain
  obtain ⟨node, joined, nodeSize⟩ := pair_root_exists root domain size domainSize
  refine ⟨node, ?_, nodeSize⟩
  rw [messageSigningRoot, rooted, found]
  exact joined

theorem message_signing_root_misshapen (chain : Chain) (message : Message) (root : Bytes)
    (rooted : message.treeRoot = .ok root) (size : root.length ≠ chunkSize) :
    messageSigningRoot chain message = .error (.chunkLength root.length) := by
  -- The domain is always there, so nothing is at fault before the root.
  obtain ⟨domain, found, _⟩ := builder_domain_exists chain
  rw [messageSigningRoot, rooted, found]
  exact pair_root_misshapen root domain size

theorem message_signing_root_rootless (chain : Chain) (message : Message) (fault : Fault)
    (rootless : message.treeRoot = .error fault) :
    messageSigningRoot chain message = .error fault := by
  rw [messageSigningRoot, rootless]
  rfl

theorem message_signing_root_length (chain : Chain) (message : Message) (node : Bytes)
    (found : messageSigningRoot chain message = .ok node) : node.length = chunkSize := by
  cases rooted : message.treeRoot with
  | error fault =>
      rw [message_signing_root_rootless chain message fault rooted] at found
      cases found
  | ok root =>
      by_cases size : root.length = chunkSize
      · obtain ⟨other, same, otherSize⟩ :=
          message_signing_root_exists chain message root rooted size
        rw [same] at found
        cases found
        exact otherSize
      · rw [message_signing_root_misshapen chain message root rooted size] at found
        cases found

end KeyCustody
