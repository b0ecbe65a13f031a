import KeyCustody.Fault
import KeyCustody.Hash.Sha256

set_option autoImplicit false

namespace KeyCustody.Merkle

def chunkSize : Nat := 32

def zeroChunk : Bytes := Bytes.zeros chunkSize

def nextPowerOfTwo (count : Int) : Nat :=
  if count ≤ 1 then 1 else Nat.pow 2 (Nat.log2 (count.toNat - 1) + 1)

def chunkCount (length : Nat) : Nat := max 1 ((length + (chunkSize - 1)) / chunkSize)

def pack (data : Bytes) : List Bytes :=
  (List.range (chunkCount data.length)).map fun i =>
    Bytes.padTo chunkSize ((data.drop (chunkSize * i)).take chunkSize)

def pairUp : List Bytes → List Bytes
  | left :: right :: rest => sha256 (left ++ right) :: pairUp rest
  | rest => rest

def climb : Nat → List Bytes → Bytes
  | 0, level => level.headD zeroChunk
  | depth + 1, level => climb depth (pairUp level)

def padded (chunks : List Bytes) : List Bytes :=
  chunks ++ List.replicate (nextPowerOfTwo chunks.length - chunks.length) zeroChunk

def root (chunks : List Bytes) : Except Fault Bytes :=
  match chunks.find? fun chunk => chunk.length ≠ chunkSize with
  | some chunk => .error (.chunkLength chunk.length)
  | none => .ok (climb (nextPowerOfTwo chunks.length).log2 (padded chunks))

def bytesRoot (data : Bytes) : Except Fault Bytes := root (pack data)

def containerRoot (fieldRoots : List Bytes) : Except Fault Bytes := root fieldRoots

end KeyCustody.Merkle
