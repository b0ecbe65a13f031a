import KeyCustody.Record
import KeyCustody.Proofs.Json
import KeyCustody.Proofs.Recorded

/-!
Dumped records load again. A record is dumped as its values, as its values with byte strings as
hexadecimal text, or as JSON text, and each dump loads as the record that it was made of.
-/

set_option autoImplicit false

namespace KeyCustody

def SignedDelegation.Sized (d : SignedDelegation) : Prop :=
  d.message.Sized ∧ d.signature.length = signatureLength

instance (d : SignedDelegation) : Decidable d.Sized :=
  inferInstanceAs (Decidable (d.message.Sized ∧ d.signature.length = signatureLength))

theorem bytes_field_spelled (length : Nat) (bytes : Bytes) (value : Value)
    (sized : bytes.length = length) (spelling : Spelling bytes value) :
    bytesField length value = .ok bytes :=
  (bytes_field_ok_iff length value bytes).mpr
    (fixed_bytes_spelled length bytes value sized spelling)

theorem delegation_check_spelled (origin : Origin) (d : Delegation) (delegator proxy : Value)
    (sized : d.Sized) (first : Spelling d.delegator delegator) (second : Spelling d.proxy proxy) :
    Delegation.check origin (.fields [("delegator", delegator), ("proxy", proxy)]) = .ok d := by
  rw [delegation_check_fields, bytes_field_spelled pubkeyLength d.delegator delegator sized.1 first,
    bytes_field_spelled pubkeyLength d.proxy proxy sized.2 second]
  rfl

theorem signed_delegation_check_spelled (origin : Origin) (d : SignedDelegation)
    (message signature : Value) (signed : d.signature.length = signatureLength)
    (first : Delegation.check origin message = .ok d.message)
    (second : Spelling d.signature signature) :
    SignedDelegation.check origin (.fields [("message", message), ("signature", signature)]) =
      .ok d := by
  rw [signed_delegation_check_fields, first,
    bytes_field_spelled signatureLength d.signature signature signed second]
  rfl

theorem logging_check_own (origin : Origin) (config : LoggingConfig)
    (known : config.level ∈ LoggingConfig.levelNames) :
    LoggingConfig.check origin config.toValue = .ok config := by
  have kept : ∀ name ∈ LoggingConfig.levelNames, LoggingConfig.normalLevel? name = some name := by
    decide +kernel
  have level : LoggingConfig.levelField (.text config.level) = .ok config.level := by
    refine (bind_ok_iff _ _ _).mpr ⟨config.level, rfl, ?_⟩
    rw [kept config.level known]
  change (Checked.both (Checked.under "level" (LoggingConfig.levelField (.text config.level)))
    (Checked.under "json_output" (boolField (.bool config.jsonOutput)))).map _ = _
  rw [level]
  rfl

namespace Record

-- What the checks of a record leave of its fields.
def Sound : Record → Prop
  | delegation d => d.Sized
  | signedDelegation d => d.Sized
  | logging config => config.level ∈ LoggingConfig.levelNames

-- A value that holds a record, with each of its byte strings in any spelling.
inductive Rendering : Record → Value → Prop
  | delegation (d : Delegation) (delegator proxy : Value)
      (delegatorSpelled : Spelling d.delegator delegator) (proxySpelled : Spelling d.proxy proxy) :
      Rendering (.delegation d) (.fields [("delegator", delegator), ("proxy", proxy)])
  | signedDelegation (d : SignedDelegation) (delegator proxy signature : Value)
      (delegatorSpelled : Spelling d.message.delegator delegator)
      (proxySpelled : Spelling d.message.proxy proxy)
      (signatureSpelled : Spelling d.signature signature) :
      Rendering (.signedDelegation d)
        (.fields [("message", .fields [("delegator", delegator), ("proxy", proxy)]),
          ("signature", signature)])
  | logging (config : LoggingConfig) : Rendering (.logging config) config.toValue

theorem values_rendering (record : Record) : Rendering record record.toValue := by
  cases record with
  | delegation d => exact .delegation d _ _ .bytes .bytes
  | signedDelegation d => exact .signedDelegation d _ _ _ .bytes .bytes .bytes
  | logging config => exact .logging config

theorem spelled_rendering (record : Record) : Rendering record record.spelled := by
  cases record with
  | delegation d => exact .delegation d _ _ (rendered_spelling _) (rendered_spelling _)
  | signedDelegation d =>
      exact .signedDelegation d _ _ _ (rendered_spelling _) (rendered_spelling _)
        (rendered_spelling _)
  | logging config => exact .logging config

theorem check_rendering (origin : Origin) (record : Record) (value : Value)
    (rendering : Rendering record value) (sound : record.Sound) :
    check record.model origin value = .ok record := by
  cases rendering with
  | delegation d delegator proxy delegatorSpelled proxySpelled =>
      change (Delegation.check origin _).map delegation = _
      rw [delegation_check_spelled origin d delegator proxy sound delegatorSpelled proxySpelled]
      rfl
  | signedDelegation d delegator proxy signature delegatorSpelled proxySpelled signatureSpelled =>
      have message := delegation_check_spelled origin d.message delegator proxy sound.1
        delegatorSpelled proxySpelled
      change (SignedDelegation.check origin _).map signedDelegation = _
      rw [signed_delegation_check_spelled origin d _ signature sound.2 message signatureSpelled]
      rfl
  | logging config =>
      change (LoggingConfig.check origin config.toValue).map logging = _
      rw [logging_check_own origin config sound]
      rfl

-- JSON text has no byte strings: it is the same for both dumps.
theorem written_spelled (style : Json.Style) (record : Record) :
    Json.write style record.toValue = Json.write style record.spelled := by
  cases record <;> rfl

theorem spelled_bytes_plain (depth : Nat) (bytes : Bytes) :
    Json.Plain depth (.text (Hex.render bytes)) :=
  .text depth (Hex.render bytes).toList

theorem spelled_delegation_plain (depth : Nat) (d : Delegation) :
    Json.Plain (depth + 1) d.spelled := by
  refine .mapping depth [("delegator".toList, .text (Hex.render d.delegator)),
    ("proxy".toList, .text (Hex.render d.proxy))] ?_
  simp only [List.forall_mem_cons, spelled_bytes_plain, true_and]
  exact List.forall_mem_nil _

theorem level_name_chars (level : Text) (known : level ∈ LoggingConfig.levelNames) :
    ∃ chars, level = Text.ofChars chars := by
  have named : LoggingConfig.levelNames =
      ["DEBUG", "INFO", "WARNING", "ERROR", "CRITICAL"].map Text.ofString := rfl
  rw [named] at known
  obtain ⟨name, _, rfl⟩ := List.mem_map.mp known
  exact ⟨name.toList, rfl⟩

theorem spelled_plain (record : Record) (sound : record.Sound) : Json.Plain 2 record.spelled := by
  cases record with
  | delegation d => exact spelled_delegation_plain 1 d
  | signedDelegation d =>
      refine .mapping 1 [("message".toList, d.message.spelled),
        ("signature".toList, .text (Hex.render d.signature))] ?_
      simp only [List.forall_mem_cons, spelled_bytes_plain, spelled_delegation_plain, true_and]
      exact List.forall_mem_nil _
  | logging config =>
      obtain ⟨level, jsonOutput⟩ := config
      obtain ⟨chars, rfl⟩ := level_name_chars level sound
      refine .mapping 1 [("level".toList, .text (Text.ofChars chars)),
        ("json_output".toList, .bool jsonOutput)] ?_
      simp only [List.forall_mem_cons, Json.Plain.text, Json.Plain.truth, true_and]
      exact List.forall_mem_nil _

theorem of_json_own (record : Record) (sound : record.Sound) :
    ofJson record.model record.json = .ok record := by
  have parsed : Json.read? Json.strict (Json.write Json.compact record.toValue) =
      some record.spelled := by
    rw [written_spelled, Json.read?, Json.read_written Json.strict Json.compact_spaced 2
      record.spelled (spelled_plain record sound) (by decide)]
    rfl
  rw [ofJson, json, Json.render, Text.ofString, String.toList_ofList, Text.chars_read_back]
  simp only [parsed, check_rendering .json record _ (spelled_rendering record) sound]
  rfl

-- What one of the three dumps of a record loads as.
inductive Reloaded (record : Record) : Record → Prop
  | json (other : Record) (loaded : ofJson record.model record.json = .ok other) :
      Reloaded record other
  | values (other : Record) (loaded : ofValue record.model record.toValue = .ok other) :
      Reloaded record other
  | spelled (other : Record) (loaded : ofValue record.model record.spelled = .ok other) :
      Reloaded record other

structure Survives (record : Record) : Prop where
  json : ofJson record.model record.json = .ok record
  values : ofValue record.model record.toValue = .ok record
  spelled : ofValue record.model record.spelled = .ok record
  again : ∀ other, record.Reloaded other → other = record ∧ other.json = record.json ∧
    other.toValue = record.toValue ∧ other.spelled = record.spelled
  distinct : ∀ other : Record, other.Sound → other.model = record.model →
    other.json = record.json ∨ other.toValue = record.toValue ∨ other.spelled = record.spelled →
    other = record

theorem of_value_own (record : Record) (sound : record.Sound) :
    ofValue record.model record.toValue = .ok record ∧
      ofValue record.model record.spelled = .ok record := by
  rw [ofValue, ofValue, as_record_ok_iff, as_record_ok_iff]
  exact ⟨check_rendering .value record _ (values_rendering record) sound,
    check_rendering .value record _ (spelled_rendering record) sound⟩

theorem reloaded_same (record other : Record) (sound : record.Sound)
    (reloaded : record.Reloaded other) : other = record := by
  obtain ⟨values, spelled⟩ := of_value_own record sound
  cases reloaded with
  | json loaded =>
      rw [of_json_own record sound] at loaded
      cases loaded
      rfl
  | values loaded =>
      rw [values] at loaded
      cases loaded
      rfl
  | spelled loaded =>
      rw [spelled] at loaded
      cases loaded
      rfl

-- A dump that two records share loads as either.
theorem dump_distinct (record other : Record) (sound : record.Sound) (otherSound : other.Sound)
    (model : other.model = record.model)
    (shared : other.json = record.json ∨ other.toValue = record.toValue ∨
      other.spelled = record.spelled) : other = record := by
  obtain ⟨values, spelled⟩ := of_value_own other otherSound
  apply reloaded_same record other sound
  rcases shared with same | same | same
  · refine .json other ?_
    rw [← model, ← same]
    exact of_json_own other otherSound
  · refine .values other ?_
    rw [← model, ← same]
    exact values
  · refine .spelled other ?_
    rw [← model, ← same]
    exact spelled

theorem sound_survives (record : Record) (sound : record.Sound) : record.Survives where
  json := of_json_own record sound
  values := (of_value_own record sound).1
  spelled := (of_value_own record sound).2
  again other reloaded := by
    rw [reloaded_same record other sound reloaded]
    exact ⟨rfl, rfl, rfl, rfl⟩
  distinct other otherSound model shared :=
    dump_distinct record other sound otherSound model shared

end Record

variable (S : Scheme)

def Recorded.signed : SignedDelegation := ⟨delegation, signature⟩

theorem delegations_survive :
    (∀ d : Delegation, d.Sized → (Record.delegation d).Survives ∧
      ∀ other, (Record.delegation d).Reloaded (.delegation other) → other.root = d.root) ∧
    ∀ d : SignedDelegation, d.Sized → (Record.signedDelegation d).Survives ∧
      ∀ other, (Record.signedDelegation d).Reloaded (.signedDelegation other) →
        other.message.root = d.message.root ∧ ∀ chain, other.verify S chain = d.verify S chain := by
  refine ⟨fun d sized => ⟨Record.sound_survives (.delegation d) sized, ?_⟩,
    fun d sized => ⟨Record.sound_survives (.signedDelegation d) sized, ?_⟩⟩
  · intro other reloaded
    cases Record.reloaded_same (.delegation d) (.delegation other) sized reloaded
    rfl
  · intro other reloaded
    cases Record.reloaded_same (.signedDelegation d) (.signedDelegation other) sized reloaded
    exact ⟨rfl, fun _ => rfl⟩

theorem recorded_delegation_survives :
    Recorded.signed.Sized ∧ (Record.signedDelegation Recorded.signed).Survives ∧
      (Record.delegation Recorded.delegation).Survives ∧
      ∀ other, (Record.signedDelegation Recorded.signed).Reloaded (.signedDelegation other) →
        other.verify Recorded.scheme .mainnet = .ok true := by
  have sized : Recorded.signed.Sized := by decide +kernel
  have verified : Recorded.signed.verify Recorded.scheme .mainnet = .ok true :=
    ok_of_to_option _ true (by decide +kernel)
  obtain ⟨unsigned, signed⟩ := delegations_survive Recorded.scheme
  obtain ⟨survives, answers⟩ := signed Recorded.signed sized
  refine ⟨sized, survives, (unsigned Recorded.delegation sized.1).1, ?_⟩
  intro other reloaded
  rw [(answers other reloaded).2 .mainnet]
  exact verified

end KeyCustody
