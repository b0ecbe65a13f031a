import KeyCustody.Ledger
import KeyCustody.Log.Scope
import KeyCustody.Signer

/-!
The signers of a chain by public key. Every action tells its answer, the events it reports, and the
registry after it.
-/

set_option autoImplicit false

namespace KeyCustody

structure Event where
  level : Int
  message : String
  scope : Scope
deriving DecidableEq

structure Registry where
  chain : Chain
  consensus : Ledger Signer
  proxies : Ledger ProxySigner

structure Outcome (α : Type) where
  answer : Except Fault α
  events : List Event
  registry : Registry

def Role.tag? : Role → Option String
  | unspecified => none
  | consensus => some "consensus"
  | proxy => some "proxy"

namespace Registry

def empty (chain : Chain) : Registry := ⟨chain, [], []⟩

def debug : Int := 10

def info : Int := 20

def warning : Int := 30

def keyScope (outer : Scope) (role : Role) (key : Bytes) : Scope :=
  outer.within ⟨role.tag?, some (Hex.abbreviate key), none, none⟩

def delegatorScope (outer : Scope) (delegator : Bytes) : Scope :=
  outer.within ⟨none, none, some (Hex.abbreviate delegator), none⟩

def tell {α : Type} (registry : Registry) (answer : Except Fault α) : Outcome α :=
  ⟨answer, [], registry⟩

/-! ## Registration -/

def addConsensus (registry : Registry) (scope : Scope) (signer : Signer) : Outcome Unit :=
  let key := signer.pubkey
  let message := "Registered consensus signer" ++
    (if registry.consensus.has key then " (replaced existing)" else "")
  ⟨.ok (), [⟨info, message, keyScope scope .consensus key⟩],
    { registry with consensus := registry.consensus.put key signer }⟩

def addProxy (registry : Registry) (scope : Scope) (proxy : ProxySigner) : Outcome Unit :=
  let scope := delegatorScope scope proxy.delegation.message.delegator
  ⟨.ok (), [⟨info, "Registered proxy signer", keyScope scope .proxy proxy.pubkey⟩],
    { registry with proxies := registry.proxies.put proxy.pubkey proxy }⟩

/-! ## Signing -/

def signer? (registry : Registry) (role : Role) (key : Bytes) : Option Signer :=
  match role with
  | .consensus => registry.consensus.get? key
  | .proxy => (registry.proxies.get? key).map (·.signer)
  | .unspecified => none

variable (S : Scheme)

def sign (registry : Registry) (scope : Scope) (role : Role) (pubkey : Value) (message : Message) :
    Outcome Bytes :=
  match toPubkey pubkey with
  | .error fault => registry.tell (.error fault)
  | .ok key =>
    let scope := keyScope scope role key
    match registry.signer? role key with
    | none =>
      ⟨.error (.refused ⟨role, key⟩),
        [⟨warning, "Sign request for " ++ role.refusalText, scope⟩], registry⟩
    | some signer =>
      ⟨signer.sign S registry.chain message, [⟨debug, "Signing", scope⟩], registry⟩

def after {α : Type} (events : List Event) (outcome : Outcome α) : Outcome α :=
  { outcome with events := events ++ outcome.events }

def keep (registry : Registry) (scope : Scope) (signer : Signer) (message : Delegation)
    (signature : Bytes) : Outcome SignedDelegation :=
  let made := do
    let delegation ← SignedDelegation.make message signature
    let proxy ← ProxySigner.make signer delegation
    return (delegation, proxy)
  match made with
  | .error fault => registry.tell (.error fault)
  | .ok (delegation, proxy) =>
    let added := registry.addProxy scope proxy
    ⟨.ok delegation, added.events, added.registry⟩

def createProxy (registry : Registry) (scope : Scope) (entropy : Bytes) (delegator : Value) :
    Outcome SignedDelegation :=
  match toPubkey delegator with
  | .error fault => registry.tell (.error fault)
  | .ok key =>
    let scope := delegatorScope scope key
    let minted := do
      let signer ← Signer.ofEntropy S entropy
      let message ← Delegation.make (.bytes key) (.bytes signer.pubkey)
      return (signer, message)
    match minted with
    | .error fault => registry.tell (.error fault)
    | .ok (signer, message) =>
      let signed := registry.sign S scope .consensus (.bytes key) (.delegation message)
      match signed.answer with
      | .error fault => ⟨.error fault, signed.events, signed.registry⟩
      | .ok signature =>
        after signed.events (signed.registry.keep scope signer message signature)

/-! ## Queries -/

def hasConsensus (registry : Registry) (pubkey : Value) : Except Fault Bool :=
  (toPubkey pubkey).map registry.consensus.has

def hasProxy (registry : Registry) (pubkey : Value) : Except Fault Bool :=
  (toPubkey pubkey).map registry.proxies.has

def getDelegation (registry : Registry) (pubkey : Value) : Except Fault SignedDelegation := do
  let key ← toPubkey pubkey
  match registry.proxies.get? key with
  | some proxy => return proxy.delegation
  | none => throw (.refused ⟨.proxy, key⟩)

def delegations (registry : Registry) : List SignedDelegation :=
  registry.proxies.map fun entry => entry.2.delegation

end Registry

end KeyCustody
