import KeyCustody.Hash.Sha256

set_option autoImplicit false

namespace KeyCustody

def blockSize : Nat := 64

def hmac (key message : Bytes) : Bytes :=
  let key := Bytes.padTo blockSize (if blockSize < key.length then sha256 key else key)
  let inner := key.map (· ^^^ 0x36)
  let outer := key.map (· ^^^ 0x5c)
  sha256 (outer ++ sha256 (inner ++ message))

namespace Hkdf

def extract (salt material : Bytes) : Bytes := hmac salt material

def expandBlocks (key info : Bytes) : Nat → Nat → Bytes → Bytes
  | 0, _, _ => []
  | count + 1, index, previous =>
    let block := hmac key (previous ++ info ++ [UInt8.ofNat index])
    block ++ expandBlocks key info count (index + 1) block

def expand (key info : Bytes) (length : Nat) : Bytes :=
  (expandBlocks key info ((length + 31) / 32) 1 []).take length

end Hkdf

end KeyCustody
