import KeyCustody.Delegation
import KeyCustody.Proofs.Except

/-!
Public keys and delegations as they come out of their checks: always of the right length, and the
bytes that the given values hold.
-/

set_option autoImplicit false

namespace KeyCustody

/-! ## Values that hold bytes -/

theorem hex_bytes_ok_iff (text : Text) (bytes : Bytes) :
    hexBytes text = .ok bytes ↔ Hex.read? text = some bytes := by
  rw [hexBytes]
  cases Hex.read? text with
  | none => simp
  | some found => simp

theorem hex_bytes_error_iff (text : Text) (fault : Fault) :
    hexBytes text = .error fault ↔ Hex.read? text = none ∧ fault = .bytes (.notHex text) := by
  rw [hexBytes]
  cases Hex.read? text with
  | none => simp [eq_comm]
  | some found => simp

-- Raw bytes of either kind, or text that spells them.
def Value.Holds (value : Value) (bytes : Bytes) : Prop :=
  value = .bytes bytes ∨ value = .buffer bytes ∨
    ∃ text, value = .text text ∧ hexBytes text = .ok bytes

theorem text_holds_iff (text : Text) (bytes : Bytes) :
    (Value.text text).Holds bytes ↔ Hex.read? text = some bytes := by
  simp [Value.Holds, hex_bytes_ok_iff]

theorem fixed_bytes_raw (length : Nat) (b : Bytes) :
    fixedBytes length (.bytes b) =
      if b.length = length then .ok b else .error (.wrongLength length b.length) :=
  ite_not (b.length = length) _ _

-- A value that holds bytes is measured as they are.
theorem fixed_bytes_held (length : Nat) (value : Value) (bytes : Bytes)
    (holds : value.Holds bytes) :
    fixedBytes length value =
      if bytes.length = length then .ok bytes else .error (.wrongLength length bytes.length) := by
  rw [← fixed_bytes_raw]
  rcases holds with rfl | rfl | ⟨text, rfl, spelled⟩
  · rfl
  · rfl
  · rw [hex_bytes_ok_iff] at spelled
    rw [fixedBytes, spelled]
    rfl

theorem fixed_bytes_unheld (length : Nat) (value : Value)
    (unheld : ¬ ∃ bytes, value.Holds bytes) :
    (∃ text, value = .text text ∧ fixedBytes length value = .error (.notHex text)) ∨
      fixedBytes length value = .error (.notBytes value.kind) := by
  cases value with
  | text text =>
      cases read : Hex.read? text with
      | none =>
          refine Or.inl ⟨text, rfl, ?_⟩
          rw [fixedBytes, read]
          rfl
      | some bytes => exact absurd ⟨bytes, (text_holds_iff text bytes).mpr read⟩ unheld
  | bytes raw => exact absurd ⟨raw, .inl rfl⟩ unheld
  | buffer raw => exact absurd ⟨raw, .inr (.inl rfl)⟩ unheld
  | _ => exact Or.inr rfl

theorem fixed_bytes_ok_iff (length : Nat) (value : Value) (bytes : Bytes) :
    fixedBytes length value = .ok bytes ↔ value.Holds bytes ∧ bytes.length = length := by
  constructor
  · intro read
    by_cases held : ∃ bytes, value.Holds bytes
    · obtain ⟨found, holds⟩ := held
      rw [fixed_bytes_held length value found holds] at read
      by_cases sized : found.length = length
      · rw [if_pos sized] at read
        cases read
        exact ⟨holds, sized⟩
      · rw [if_neg sized] at read
        cases read
    · rcases fixed_bytes_unheld length value held with ⟨_, _, refused⟩ | refused
      · rw [refused] at read
        cases read
      · rw [refused] at read
        cases read
  · rintro ⟨holds, sized⟩
    rw [fixed_bytes_held length value bytes holds, if_pos sized]

theorem fixed_bytes_length (length : Nat) (value : Value) (b : Bytes)
    (read : fixedBytes length value = .ok b) : b.length = length :=
  ((fixed_bytes_ok_iff length value b).mp read).2

/-! ## Keys -/

theorem to_pubkey_ok_iff (value : Value) (key : Bytes) :
    toPubkey value = .ok key ↔ value.Holds key ∧ key.length = pubkeyLength := by
  rw [toPubkey, map_error_ok_iff, fixed_bytes_ok_iff]

theorem to_pubkey_raw_iff (raw key : Bytes) :
    toPubkey (.bytes raw) = .ok key ↔ raw.length = pubkeyLength ∧ raw = key := by
  rw [to_pubkey_ok_iff]
  simp only [Value.Holds, Value.bytes.injEq, reduceCtorEq, false_and, exists_false, or_false]
  constructor
  · rintro ⟨rfl, sized⟩
    exact ⟨sized, rfl⟩
  · rintro ⟨sized, rfl⟩
    exact ⟨rfl, sized⟩

theorem to_pubkey_raw (key : Bytes) (sized : key.length = pubkeyLength) :
    toPubkey (.bytes key) = .ok key :=
  (to_pubkey_raw_iff key key).mpr ⟨sized, rfl⟩

theorem to_pubkey_length (value : Value) (key : Bytes) (read : toPubkey value = .ok key) :
    key.length = pubkeyLength :=
  ((to_pubkey_ok_iff value key).mp read).2

theorem to_pubkey_idempotent (value : Value) (key : Bytes) (read : toPubkey value = .ok key) :
    toPubkey (.bytes key) = .ok key :=
  to_pubkey_raw key (to_pubkey_length value key read)

-- A refused key is never taken for anything else: the fault says what was wrong with its bytes.
theorem to_pubkey_fault (value : Value) (fault : Fault) (refused : toPubkey value = .error fault) :
    ∃ cause, fault = .pubkey cause := by
  rw [toPubkey, map_error_error_iff] at refused
  obtain ⟨cause, _, same⟩ := refused
  exact ⟨cause, same.symm⟩

/-! ## Fields -/

-- A record succeeds field by field, whatever its faults would have been told with.
theorem checked_both_ok_iff {α β : Type} (a : Checked α) (b : Checked β) (pair : α × β) :
    Checked.both a b = .ok pair ↔ a = .ok pair.1 ∧ b = .ok pair.2 := by
  obtain ⟨left, right⟩ := pair
  cases a with
  | error faults => cases b <;> simp [Checked.both]
  | ok first =>
      cases b with
      | error faults => simp [Checked.both]
      | ok second => simp [Checked.both]

theorem checked_under_ok_iff {α : Type} (name : Text) (checked : Checked α) (value : α) :
    Checked.under name checked = .ok value ↔ checked = .ok value :=
  map_error_ok_iff checked _ value

theorem as_record_ok_iff {α : Type} (model : String) (checked : Checked α) (value : α) :
    checked.asRecord model = .ok value ↔ checked = .ok value :=
  map_error_ok_iff checked _ value

theorem bytes_field_ok_iff (length : Nat) (value : Value) (b : Bytes) :
    bytesField length value = .ok b ↔ fixedBytes length value = .ok b := by
  rw [bytesField]
  cases fixedBytes length value with
  | error cause => simp [Checked.fail]
  | ok read => simp

theorem bytes_field_raw_iff (length : Nat) (raw b : Bytes) :
    bytesField length (.bytes raw) = .ok b ↔ raw.length = length ∧ raw = b := by
  rw [bytes_field_ok_iff, fixed_bytes_raw]
  by_cases sized : raw.length = length
  · simp [sized]
  · simp [sized]

-- What the field checks of a delegation let through.
def Delegation.Sized (d : Delegation) : Prop :=
  d.delegator.length = pubkeyLength ∧ d.proxy.length = pubkeyLength

instance (d : Delegation) : Decidable d.Sized :=
  inferInstanceAs (Decidable (d.delegator.length = pubkeyLength ∧ d.proxy.length = pubkeyLength))

theorem delegation_check_fields (origin : Origin) (delegator proxy : Value) :
    Delegation.check origin (.fields [("delegator", delegator), ("proxy", proxy)]) =
      (Checked.both (Checked.under "delegator" (bytesField pubkeyLength delegator))
        (Checked.under "proxy" (bytesField pubkeyLength proxy))).map fun (delegator, proxy) =>
          ⟨delegator, proxy⟩ := by
  rfl

theorem signed_delegation_check_fields (origin : Origin) (message signature : Value) :
    SignedDelegation.check origin (.fields [("message", message), ("signature", signature)]) =
      (Checked.both (Checked.under "message" (Delegation.check origin message))
        (Checked.under "signature" (bytesField signatureLength signature))).map
          fun (message, signature) => ⟨message, signature⟩ := by
  rfl

theorem delegation_make_iff (delegator proxy : Value) (d : Delegation) :
    Delegation.make delegator proxy = .ok d ↔
      toPubkey delegator = .ok d.delegator ∧ toPubkey proxy = .ok d.proxy := by
  rw [Delegation.make, Delegation.ofValue, as_record_ok_iff, delegation_check_fields, map_ok_iff]
  simp only [checked_both_ok_iff, checked_under_ok_iff, bytes_field_ok_iff, toPubkey,
    map_error_ok_iff]
  constructor
  · rintro ⟨read, both, rfl⟩
    exact both
  · intro both
    exact ⟨(d.delegator, d.proxy), both, rfl⟩

theorem delegation_make_raw_iff (delegator proxy : Bytes) (d : Delegation) :
    Delegation.make (.bytes delegator) (.bytes proxy) = .ok d ↔
      delegator.length = pubkeyLength ∧ proxy.length = pubkeyLength ∧ d = ⟨delegator, proxy⟩ := by
  rw [delegation_make_iff, to_pubkey_raw_iff, to_pubkey_raw_iff]
  constructor
  · rintro ⟨⟨first, rfl⟩, second, rfl⟩
    exact ⟨first, second, rfl⟩
  · rintro ⟨first, second, rfl⟩
    exact ⟨⟨first, rfl⟩, second, rfl⟩

theorem signed_delegation_make_iff (message : Delegation) (signature : Bytes)
    (d : SignedDelegation) :
    SignedDelegation.make message signature = .ok d ↔
      signature.length = signatureLength ∧ d = ⟨message, signature⟩ := by
  rw [SignedDelegation.make, SignedDelegation.ofValue, as_record_ok_iff,
    signed_delegation_check_fields, map_ok_iff]
  simp only [checked_both_ok_iff, checked_under_ok_iff, bytes_field_raw_iff]
  constructor
  · rintro ⟨⟨left, right⟩, ⟨taken, sized, rfl⟩, rfl⟩
    cases taken
    exact ⟨sized, rfl⟩
  · rintro ⟨sized, rfl⟩
    exact ⟨(message, signature), ⟨rfl, sized, rfl⟩, rfl⟩

end KeyCustody
