import KeyCustody.Proofs.HexForms
import KeyCustody.Proofs.Representation
import KeyCustody.Proofs.Recorded

/-!
Keys are read alike everywhere. The fields of a delegation take what a request takes as a key, with
the same bytes, and refuse the rest for the same cause; so whatever a delegation takes as its proxy
addresses that proxy in a registry. A refusal can be told unless it quotes half of a surrogate pair.
-/

set_option autoImplicit false

namespace KeyCustody

/-! ## Fields -/

-- Why a value is no key, if it is none.
def keyFault? (value : Value) : Option BytesFault :=
  match toPubkey value with
  | .error (.pubkey cause) => some cause
  | _ => none

-- What a field has to report of its value.
def keyFaults (name : Text) (value : Value) : List FieldFault :=
  (keyFault? value).toList.map fun cause => ⟨[name], .bytes cause⟩

theorem key_fault_ok (value : Value) (key : Bytes) (read : toPubkey value = .ok key) :
    keyFault? value = none := by
  rw [keyFault?, read]

theorem key_fault_iff (value : Value) (cause : BytesFault) :
    keyFault? value = some cause ↔ toPubkey value = .error (.pubkey cause) := by
  cases read : toPubkey value with
  | ok key => simp [keyFault?, read]
  | error fault =>
      obtain ⟨other, rfl⟩ := to_pubkey_fault value fault read
      simp [keyFault?, read]

theorem key_field_read (name : Text) (value : Value) (key : Bytes)
    (read : toPubkey value = .ok key) :
    Checked.under name (bytesField pubkeyLength value) = .ok key := by
  rw [checked_under_ok_iff, bytes_field_ok_iff]
  exact (map_error_ok_iff _ _ key).mp read

theorem key_field_refused (name : Text) (value : Value) (cause : BytesFault)
    (refused : toPubkey value = .error (.pubkey cause)) :
    Checked.under name (bytesField pubkeyLength value) = .error (keyFaults name value) := by
  obtain ⟨other, read, same⟩ := (map_error_error_iff _ _ _).mp refused
  cases same
  rw [keyFaults, (key_fault_iff value cause).mpr refused, bytesField, read]
  rfl

theorem to_pubkey_cases (value : Value) :
    (∃ key, toPubkey value = .ok key) ∨ ∃ cause, toPubkey value = .error (.pubkey cause) := by
  cases read : toPubkey value with
  | ok key => exact Or.inl ⟨key, rfl⟩
  | error fault =>
      obtain ⟨cause, rfl⟩ := to_pubkey_fault value fault read
      exact Or.inr ⟨cause, rfl⟩

theorem key_field_cases (name : Text) (value : Value) :
    (∃ key, toPubkey value = .ok key ∧ keyFaults name value = [] ∧
      Checked.under name (bytesField pubkeyLength value) = .ok key) ∨
    Checked.under name (bytesField pubkeyLength value) = .error (keyFaults name value) := by
  rcases to_pubkey_cases value with ⟨key, read⟩ | ⟨cause, refused⟩
  · refine Or.inl ⟨key, read, ?_, key_field_read name value key read⟩
    rw [keyFaults, key_fault_ok value key read]
    rfl
  · exact Or.inr (key_field_refused name value cause refused)

theorem make_delegation_refused (delegator proxy : Value)
    (refused : ¬ ((∃ key, toPubkey delegator = .ok key) ∧ ∃ key, toPubkey proxy = .ok key)) :
    Delegation.make delegator proxy = .error (Checked.recordFault Delegation.modelName
      (keyFaults "delegator" delegator ++ keyFaults "proxy" proxy)) := by
  rw [Delegation.make, Delegation.ofValue, delegation_check_fields]
  rcases key_field_cases "delegator" delegator with ⟨holder, holderRead, nothing, first⟩ | first
  · rcases key_field_cases "proxy" proxy with ⟨key, keyRead, _, second⟩ | second
    · exact absurd ⟨⟨holder, holderRead⟩, key, keyRead⟩ refused
    · rw [first, second, nothing]
      rfl
  · rcases key_field_cases "proxy" proxy with ⟨key, _, nothing, second⟩ | second
    · rw [first, second, nothing, List.append_nil]
      rfl
    · rw [first, second]
      rfl

/-! ## Refusals that can be told -/

-- A refusal quotes twelve points of text that is not hexadecimal. They must be characters.
def Tellable (value : Value) : Prop :=
  ∀ text, value = .text text → Hex.read? text = none →
    ∀ point ∈ text.take 12, point.isHalf = false

theorem of_string_whole (s : String) : (Text.ofString s).any (·.isHalf) = false :=
  (Text.whole_iff _).mp ⟨s.toList, rfl⟩

theorem message_whole_iff (cause : BytesFault) :
    cause.message.any (·.isHalf) = false ↔
      ∀ text, cause = .notHex text → ∀ point ∈ text.take 12, point.isHalf = false := by
  cases cause with
  | notHex text =>
      simp only [BytesFault.message, List.any_append, of_string_whole, Bool.false_or,
        Bool.or_false, BytesFault.notHex.injEq, forall_eq']
      simp [List.any_eq_false]
  | notBytes kind => simp [BytesFault.message, of_string_whole]
  | wrongLength expected actual => simp [BytesFault.message, of_string_whole]

theorem not_hex_iff (value : Value) (text : Text) :
    keyFault? value = some (.notHex text) ↔ value = .text text ∧ Hex.read? text = none := by
  rw [key_fault_iff, toPubkey, map_error_error_iff]
  constructor
  · rintro ⟨cause, refused, same⟩
    cases same
    by_cases held : ∃ bytes, value.Holds bytes
    · obtain ⟨bytes, holds⟩ := held
      rw [fixed_bytes_held _ value bytes holds] at refused
      split at refused <;> cases refused
    · rcases fixed_bytes_unheld pubkeyLength value held with ⟨other, rfl, told⟩ | told
      · rw [told] at refused
        cases refused
        refine ⟨rfl, Option.eq_none_iff_forall_ne_some.mpr fun bytes read => held ⟨bytes, ?_⟩⟩
        exact (text_holds_iff text bytes).mpr read
      · rw [told] at refused
        cases refused
  · rintro ⟨rfl, unread⟩
    refine ⟨.notHex text, ?_, rfl⟩
    rw [fixedBytes, unread]
    rfl

theorem tellable_iff (value : Value) :
    Tellable value ↔ ∀ cause, keyFault? value = some cause →
      cause.message.any (·.isHalf) = false := by
  constructor
  · intro tellable cause refused
    rw [message_whole_iff]
    rintro text rfl
    obtain ⟨given, unread⟩ := (not_hex_iff value text).mp refused
    exact tellable text given unread
  · intro whole text given unread
    have refused := (not_hex_iff value text).mpr ⟨given, unread⟩
    exact (message_whole_iff _).mp (whole _ refused) text rfl

theorem untellable_text (value : Value) (untellable : ¬ Tellable value) :
    ∃ text, value = .text text ∧ keyFault? value = some (.notHex text) ∧
      (BytesFault.notHex text).message.any (·.isHalf) = true := by
  rw [Tellable] at untellable
  simp only [not_forall] at untellable
  obtain ⟨text, given, unread, quoted⟩ := untellable
  refine ⟨text, given, (not_hex_iff value text).mpr ⟨given, unread⟩, ?_⟩
  rw [← Bool.not_eq_false, message_whole_iff]
  intro whole
  obtain ⟨point, inside, half⟩ := quoted
  exact half (whole text rfl point inside)

theorem key_objections (name : Text) (value : Value) :
    (keyFaults name value).filterMap (·.cause.objection?) =
      (keyFault? value).toList.map (·.message) := by
  rw [keyFaults]
  cases keyFault? value <;> rfl

-- The objection of a field that cannot be told, if there is one, is the first that is found.
theorem tellable_objections (value : Value) (tellable : Tellable value) :
    ((keyFault? value).toList.map (·.message)).find? (fun objection => objection.any (·.isHalf)) =
      none := by
  rw [List.find?_eq_none]
  intro objection member
  obtain ⟨cause, refused, rfl⟩ := List.mem_map.mp member
  have whole := (tellable_iff value).mp tellable cause (Option.mem_toList.mp refused)
  exact whole ▸ Bool.false_ne_true

theorem untellable_objections (value : Value) (untellable : ¬ Tellable value) :
    ∃ text, value = .text text ∧
      ((keyFault? value).toList.map (·.message)).find?
        (fun objection => objection.any (·.isHalf)) = some (BytesFault.notHex text).message := by
  obtain ⟨text, given, refused, half⟩ := untellable_text value untellable
  refine ⟨text, given, ?_⟩
  rw [refused]
  exact List.find?_cons_of_pos half

-- What a delegation says of two values that are not both keys.
inductive Told (delegator proxy : Value) : Fault → Prop
  | fields (first : Tellable delegator) (second : Tellable proxy) :
      Told delegator proxy (.invalid Delegation.modelName
        (keyFaults "delegator" delegator ++ keyFaults "proxy" proxy))
  | delegator (text : Text) (given : delegator = .text text) (untellable : ¬ Tellable delegator) :
      Told delegator proxy (.unencodable (BytesFault.notHex text).message)
  | proxy (text : Text) (first : Tellable delegator) (given : proxy = .text text)
      (untellable : ¬ Tellable proxy) :
      Told delegator proxy (.unencodable (BytesFault.notHex text).message)

theorem record_fault_told (delegator proxy : Value) :
    Told delegator proxy (Checked.recordFault Delegation.modelName
      (keyFaults "delegator" delegator ++ keyFaults "proxy" proxy)) := by
  simp only [Checked.recordFault, List.filterMap_append, key_objections, List.find?_append]
  by_cases first : Tellable delegator
  · rw [tellable_objections delegator first, Option.none_or]
    by_cases second : Tellable proxy
    · rw [tellable_objections proxy second]
      exact .fields first second
    · obtain ⟨text, given, found⟩ := untellable_objections proxy second
      rw [found]
      exact .proxy text first given second
  · obtain ⟨text, given, found⟩ := untellable_objections delegator first
    rw [found]
    exact .delegator text given first

/-! ## Requests -/

-- What is asked with a value is answered as for a proxy's key, and finds the proxy once that is
-- registered.
structure Addresses (S : Scheme) (value : Value) (key : Bytes) : Prop where
  known : ∀ registry : Registry, registry.hasProxy value = registry.hasProxy (.bytes key)
  told : ∀ registry : Registry, registry.getDelegation value = registry.getDelegation (.bytes key)
  served : ∀ (registry : Registry) scope message,
    registry.sign S scope .proxy value message = registry.sign S scope .proxy (.bytes key) message
  found : ∀ (registry : Registry) scope (signer : Signer) signed proxy,
    signed.message.proxy = key → ProxySigner.make signer signed = .ok proxy →
      (registry.addProxy scope proxy).registry.hasProxy value = .ok true ∧
      (registry.addProxy scope proxy).registry.getDelegation value = .ok signed ∧
      ∀ later message,
        ((registry.addProxy scope proxy).registry.sign S later .proxy value message).answer =
          signer.sign S registry.chain message

theorem key_addresses (S : Scheme) (value : Value) (key : Bytes) (read : toPubkey value = .ok key) :
    Addresses S value key := by
  have same : toPubkey value = toPubkey (.bytes key) := by
    rw [read, to_pubkey_idempotent value key read]
  refine ⟨fun registry => ?_, fun registry => ?_, fun registry scope message => ?_,
    fun registry scope signer signed proxy named made => ?_⟩
  · rw [Registry.hasProxy, Registry.hasProxy, same]
  · rw [Registry.getDelegation, Registry.getDelegation, same]
  · rw [Registry.sign, Registry.sign, same]
  · obtain ⟨own, rfl⟩ := (proxy_make_ok_iff signer signed proxy).mp made
    have stored : (registry.addProxy scope ⟨signer, signed⟩).registry.proxies.get? key =
        some ⟨signer, signed⟩ := by
      rw [← named, own]
      exact (Ledger.get_put _ _ _ _).trans (if_pos rfl)
    have told := (Registry.get_delegation_iff _ value signed).mpr ⟨key, _, read, stored, rfl⟩
    refine ⟨(Registry.has_proxy_iff_delegation _ value).mpr ⟨signed, told⟩, told,
      fun later message => ?_⟩
    have held : (registry.addProxy scope ⟨signer, signed⟩).registry.signer? .proxy key =
        some signer := congrArg (Option.map ProxySigner.signer) stored
    rw [Registry.sign_known S _ later .proxy value message key signer read held]
    rfl

theorem keys_read_alike (S : Scheme) (value other : Value) :
    (∀ key, toPubkey value = .ok key ↔ value.Holds key ∧ key.length = pubkeyLength) ∧
    ((¬ ∃ key, value.Holds key ∧ key.length = pubkeyLength) →
      ∃ cause, toPubkey value = .error (.pubkey cause)) ∧
    (∀ key, toPubkey value = .ok key → toPubkey (.bytes key) = .ok key) ∧
    (∀ d, Delegation.make value other = .ok d ↔
      toPubkey value = .ok d.delegator ∧ toPubkey other = .ok d.proxy) ∧
    (¬ ((∃ key, toPubkey value = .ok key) ∧ ∃ key, toPubkey other = .ok key) →
      ∃ fault, Delegation.make value other = .error fault ∧ Told value other fault) ∧
    ∀ d, Delegation.make value other = .ok d → Addresses S other d.proxy := by
  refine ⟨to_pubkey_ok_iff value, fun unheld => ?_, to_pubkey_idempotent value,
    delegation_make_iff value other, fun refused => ?_, fun d made => ?_⟩
  · rcases to_pubkey_cases value with ⟨key, read⟩ | refused
    · exact absurd ⟨key, (to_pubkey_ok_iff value key).mp read⟩ unheld
    · exact refused
  · exact ⟨_, make_delegation_refused value other refused, record_fault_told value other⟩
  · exact key_addresses S other d.proxy ((delegation_make_iff value other d).mp made).2

-- A number and a short text are both reported; the written form of a key addresses it.
theorem recorded_keys_read_alike :
    Delegation.make (.int 12) (.text "0x0a") = .error (.invalid "ProxyDelegation"
        [⟨["delegator"], .bytes (.notBytes "int")⟩, ⟨["proxy"], .bytes (.wrongLength 48 1)⟩]) ∧
      Addresses Recorded.scheme (.text (Hex.render Recorded.proxyKey)) Recorded.proxyKey := by
  constructor
  · obtain ⟨_, _, _, _, refused, _⟩ := keys_read_alike Recorded.scheme (.int 12) (.text "0x0a")
    obtain ⟨fault, failed, told⟩ := refused (fun ⟨⟨_, read⟩, _⟩ => by cases read)
    rw [failed]
    cases told with
    | fields first second => rfl
    | delegator text given untellable => cases given
    | proxy text first given untellable =>
        refine absurd (fun text given unread => ?_) untellable
        cases given
        cases unread
  · obtain ⟨_, _, _, made, _, addresses⟩ := keys_read_alike Recorded.scheme
      (.bytes Recorded.holderKey) (.text (Hex.render Recorded.proxyKey))
    exact addresses Recorded.delegation ((made Recorded.delegation).mpr
      ⟨to_pubkey_raw Recorded.holderKey rfl,
        spelling_read Recorded.proxyKey _ rfl (rendered_spelling Recorded.proxyKey)⟩)

-- Half of a surrogate pair is no key, but a delegation cannot say so.
theorem lone_half_untold :
    toPubkey (.text [.half 0]) = .error (.pubkey (.notHex [.half 0])) ∧
      Delegation.make (.text [.half 0]) (.bytes (Bytes.zeros 48)) =
        .error (.unencodable (BytesFault.notHex [.half 0]).message) ∧
      ¬ ∃ faults, Delegation.make (.text [.half 0]) (.bytes (Bytes.zeros 48)) =
        .error (.invalid Delegation.modelName faults) := by
  refine ⟨rfl, rfl, ?_⟩
  rintro ⟨faults, listed⟩
  cases listed

end KeyCustody
