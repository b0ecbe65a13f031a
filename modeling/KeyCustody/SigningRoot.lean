import KeyCustody.Merkle

set_option autoImplicit false

namespace KeyCustody

def builderDomainType : Bytes := [0x00, 0x00, 0x00, 0x01]

-- Stands for the validator set when a domain is fixed before genesis.
def noValidatorsRoot : Bytes := Bytes.zeros 32

def forkDataRoot (forkVersion validatorsRoot : Bytes) : Except Fault Bytes := do
  let version ← Merkle.bytesRoot forkVersion
  let validators ← Merkle.bytesRoot validatorsRoot
  Merkle.containerRoot [version, validators]

def computeDomain (domainType forkVersion validatorsRoot : Bytes) : Except Fault Bytes :=
  if domainType.length ≠ 4 ∨ forkVersion.length ≠ 4 then .error .domainParts
  else do
    let root ← forkDataRoot forkVersion validatorsRoot
    return domainType ++ root.take 28

def Chain.builderDomain (chain : Chain) : Except Fault Bytes :=
  computeDomain builderDomainType chain.forkVersion noValidatorsRoot

def signingRoot (objectRoot domain : Bytes) : Except Fault Bytes :=
  Merkle.containerRoot [objectRoot, domain]

end KeyCustody
