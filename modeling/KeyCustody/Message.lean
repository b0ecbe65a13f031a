import KeyCustody.Delegation

set_option autoImplicit false

namespace KeyCustody

inductive Message where
  | slot (slot : Int) (payloadRoot : Bytes)
  | root (bytes : Bytes)
  | delegation (d : Delegation)
  | failing (fault : Fault)

namespace Message

def slotBound : Int := 0x10000000000000000

def slotBytes (slot : Int) : Except Fault Bytes :=
  if slot < 0 then .error .negativeSlot
  else if slotBound ≤ slot then .error .largeSlot
  else .ok (Bytes.littleEndian 8 slot.toNat)

def treeRoot : Message → Except Fault Bytes
  | slot n payloadRoot => do
    let number ← slotBytes n
    let first ← Merkle.bytesRoot number
    let second ← Merkle.bytesRoot payloadRoot
    Merkle.containerRoot [first, second]
  | root bytes => .ok bytes
  | delegation d => d.root
  | failing fault => .error fault

end Message

end KeyCustody
