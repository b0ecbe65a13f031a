import KeyCustody.Signature.Scheme

set_option autoImplicit false

namespace KeyCustody

inductive Backend where
  | plain (secret : Int)
  | foreign (value : Value)

def Backend.describe : Backend → String
  | plain _ => "PlainBackend()"
  | foreign value => String.ofList value.literal

def Backend.kind : Backend → String
  | plain _ => "PlainBackend"
  | foreign value => value.kind

structure Signer where
  backend : Backend
  pubkey : Bytes

namespace Signer

def make (S : Scheme) : Backend → Except Fault Signer
  | .plain secret => (S.pubkeyOf secret).map fun key => ⟨.plain secret, key⟩
  | .foreign value => .error (.backend value.kind)

def ofEntropy (S : Scheme) (entropy : Bytes) : Except Fault Signer :=
  make S (.plain (S.generate entropy))

def ofBytes (S : Scheme) (data : Bytes) : Except Fault Signer := do
  let secret ← S.secretOfBytes data
  make S (.plain secret)

def sign (S : Scheme) (signer : Signer) (chain : Chain) (message : Message) : Except Fault Bytes :=
  match signer.backend with
  | .plain secret => S.signMessage chain secret message
  | .foreign value => .error (.backend value.kind)

def describe (signer : Signer) : String :=
  "Signer(" ++ signer.backend.kind ++ ", pubkey=" ++ Hex.abbreviate signer.pubkey ++ ")"

end Signer

inductive KeySource where
  | backend (backend : Backend)
  | secret (data : Bytes)
  | entropy (entropy : Bytes)

def KeySource.signer (S : Scheme) : KeySource → Except Fault Signer
  | .backend held => Signer.make S held
  | .secret data => Signer.ofBytes S data
  | .entropy data => Signer.ofEntropy S data

structure ProxySigner where
  signer : Signer
  delegation : SignedDelegation

namespace ProxySigner

def make (signer : Signer) (delegation : SignedDelegation) : Except Fault ProxySigner :=
  if delegation.message.proxy ≠ signer.pubkey then .error .proxyMismatch
  else .ok ⟨signer, delegation⟩

def pubkey (proxy : ProxySigner) : Bytes := proxy.signer.pubkey

end ProxySigner

def KeySource.proxy (S : Scheme) (source : KeySource) (delegation : SignedDelegation) :
    Except Fault ProxySigner := do
  ProxySigner.make (← source.signer S) delegation

def SignedDelegation.verify (S : Scheme) (d : SignedDelegation) (chain : Chain) :
    Except Fault Bool :=
  S.verifyMessage chain (.bytes d.message.delegator) (.delegation d.message) (.bytes d.signature)

end KeyCustody
