import KeyCustody.Merkle

/-! A record reports every field that it refuses, in field order. -/

set_option autoImplicit false

namespace KeyCustody

def pubkeyLength : Nat := 48

def signatureLength : Nat := 96

def fixedBytes (length : Nat) (value : Value) : Except BytesFault Bytes := do
  let bytes ← match value with
    | .text s => match Hex.read? s with
      | some bytes => .ok bytes
      | none => .error (.notHex s)
    | .bytes b | .buffer b => .ok b
    | value => .error (.notBytes value.kind)
  if bytes.length ≠ length then .error (.wrongLength length bytes.length) else .ok bytes

def hexBytes (text : Text) : Except Fault Bytes :=
  match Hex.read? text with
  | some bytes => .ok bytes
  | none => .error (.bytes (.notHex text))

def toPubkey (value : Value) : Except Fault Bytes :=
  (fixedBytes pubkeyLength value).mapError .pubkey

inductive Origin where
  | value
  | json
deriving DecidableEq

abbrev Checked (α : Type) := Except (List FieldFault) α

namespace Checked

variable {α β : Type}

def fail (cause : FieldCause) : Checked α := .error [⟨[], cause⟩]

def under (name : Text) (checked : Checked α) : Checked α :=
  checked.mapError fun faults => faults.map fun fault => { fault with path := name :: fault.path }

def both (a : Checked α) (b : Checked β) : Checked (α × β) :=
  match a, b with
  | .ok a, .ok b => .ok (a, b)
  | .error faults, .ok _ | .ok _, .error faults => .error faults
  | .error faults, .error more => .error (faults ++ more)

-- An objection without an encoding cannot be told, and the first such one stands for all.
def recordFault (model : String) (faults : List FieldFault) : Fault :=
  let objections := faults.filterMap (·.cause.objection?)
  match objections.find? fun objection => objection.any (·.isHalf) with
  | some objection => .unencodable objection
  | none => .invalid model faults

def asRecord (model : String) (checked : Checked α) : Except Fault α :=
  checked.mapError (recordFault model)

end Checked

def required {α : Type} (entries : Value.Entries) (name : Text) (read : Value → Checked α) :
    Checked α :=
  Checked.under name <|
    match Value.field? entries name with
    | some value => read value
    | none => Checked.fail .missing

def notRecord {α : Type} (origin : Origin) (model : String) : Checked α :=
  Checked.fail (match origin with | .value => .notRecord model | .json => .notObject)

def bytesField (length : Nat) (value : Value) : Checked Bytes :=
  match fixedBytes length value with
  | .ok bytes => .ok bytes
  | .error cause => Checked.fail (.bytes cause)

namespace Delegation

def modelName : String := "ProxyDelegation"

def check (origin : Origin) : Value → Checked Delegation
  | .mapping entries =>
    (Checked.both (required entries "delegator" (bytesField pubkeyLength))
      (required entries "proxy" (bytesField pubkeyLength))).map fun (delegator, proxy) =>
        ⟨delegator, proxy⟩
  | .delegation d => .ok d
  | _ => notRecord origin modelName

def ofValue (value : Value) : Except Fault Delegation := (check .value value).asRecord modelName

def make (delegator proxy : Value) : Except Fault Delegation :=
  ofValue (.fields [("delegator", delegator), ("proxy", proxy)])

def toValue (d : Delegation) : Value :=
  .fields [("delegator", .bytes d.delegator), ("proxy", .bytes d.proxy)]

def spelled (d : Delegation) : Value :=
  .fields [("delegator", .text (Hex.render d.delegator)), ("proxy", .text (Hex.render d.proxy))]

def root (d : Delegation) : Except Fault Bytes := do
  let delegator ← Merkle.bytesRoot d.delegator
  let proxy ← Merkle.bytesRoot d.proxy
  Merkle.containerRoot [delegator, proxy]

end Delegation

structure SignedDelegation where
  message : Delegation
  signature : Bytes
deriving DecidableEq

namespace SignedDelegation

def modelName : String := "SignedProxyDelegation"

def check (origin : Origin) : Value → Checked SignedDelegation
  | .mapping entries =>
    (Checked.both (required entries "message" (Delegation.check origin))
      (required entries "signature" (bytesField signatureLength))).map fun (message, signature) =>
        ⟨message, signature⟩
  | _ => notRecord origin modelName

def ofValue (value : Value) : Except Fault SignedDelegation :=
  (check .value value).asRecord modelName

def make (message : Delegation) (signature : Bytes) : Except Fault SignedDelegation :=
  ofValue (.fields [("message", .delegation message), ("signature", .bytes signature)])

def toValue (d : SignedDelegation) : Value :=
  .fields [("message", d.message.toValue), ("signature", .bytes d.signature)]

def spelled (d : SignedDelegation) : Value :=
  .fields [("message", d.message.spelled), ("signature", .text (Hex.render d.signature))]

end SignedDelegation

end KeyCustody
