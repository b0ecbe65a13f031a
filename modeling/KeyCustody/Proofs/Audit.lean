import KeyCustody.Proofs.Refusals

/-!
The audit trail: which records each operation leaves, in order, and whose key each of them names. An
outer scope shows through in its caller, and in its delegator where no other is at work.
-/

set_option autoImplicit false

namespace KeyCustody

namespace Registry

variable {S : Scheme}

-- What a record about a key of a register has to carry inside an outer scope.
def tagged (outer : Scope) (role : Role) (key : Bytes) (delegator : Option Bytes) : Scope where
  keyRole := role.tag?.map Text.ofString
  pubkey := some (Hex.abbreviate key)
  delegator := (delegator.map fun key => Text.ofString (Hex.abbreviate key)) <|> outer.delegator
  caller := outer.caller

theorem key_scope_tagged (outer : Scope) (role : Role) (key : Bytes) (named : role ≠ .unspecified) :
    keyScope outer role key = tagged outer role key none := by
  cases role with
  | unspecified => exact absurd rfl named
  | consensus => rfl
  | proxy => rfl

theorem delegator_scope_tagged (outer : Scope) (role : Role) (key delegator : Bytes)
    (named : role ≠ .unspecified) :
    keyScope (delegatorScope outer delegator) role key =
      tagged outer role key (some delegator) := by
  cases role with
  | unspecified => exact absurd rfl named
  | consensus => rfl
  | proxy => rfl

def consensusRegistered (scope : Scope) (replaced : Bool) (key : Bytes) : Event :=
  ⟨info, "Registered consensus signer" ++ (if replaced then " (replaced existing)" else ""),
    tagged scope .consensus key none⟩

def proxyRegistered (scope : Scope) (key delegator : Bytes) : Event :=
  ⟨info, "Registered proxy signer", tagged scope .proxy key (some delegator)⟩

def refusedFor (scope : Scope) (role : Role) (key : Bytes) (delegator : Option Bytes) : Event :=
  ⟨warning, "Sign request for " ++ role.refusalText, tagged scope role key delegator⟩

def signedFor (scope : Scope) (role : Role) (key : Bytes) (delegator : Option Bytes) : Event :=
  ⟨debug, "Signing", tagged scope role key delegator⟩

def Action.isQuery : Action → Bool
  | .hasConsensus _ | .hasProxy _ | .getDelegation _ | .consensusKeys | .proxyKeys
  | .delegations => true
  | _ => false

structure AuditTrail (S : Scheme) (registry : Registry) (scope : Scope) : Prop where
  addConsensus : ∀ signer : Signer, (registry.addConsensus scope signer).events =
    [consensusRegistered scope (decide (signer.pubkey ∈ registry.consensus.keys)) signer.pubkey]
  addProxy : ∀ proxy : ProxySigner, (registry.addProxy scope proxy).events =
    [proxyRegistered scope proxy.pubkey proxy.delegation.message.delegator]
  signMalformed : ∀ role pubkey message fault, toPubkey pubkey = .error fault →
    (registry.sign S scope role pubkey message).events = []
  signUnknown : ∀ role pubkey message key, role ≠ .unspecified → toPubkey pubkey = .ok key →
    key ∉ registry.heldKeys role →
      (registry.sign S scope role pubkey message).events = [refusedFor scope role key none]
  signKnown : ∀ role pubkey message key, role ≠ .unspecified → toPubkey pubkey = .ok key →
    key ∈ registry.heldKeys role →
      (registry.sign S scope role pubkey message).events = [signedFor scope role key none]
  createMalformed : ∀ entropy delegator fault, toPubkey delegator = .error fault →
    (registry.createProxy S scope entropy delegator).events = []
  createUnknown : ∀ entropy delegator key, toPubkey delegator = .ok key →
    key ∉ registry.consensus.keys →
      (registry.createProxy S scope entropy delegator).events =
        [refusedFor scope .consensus key (some key)]
  createKnown : ∀ entropy delegator key, toPubkey delegator = .ok key →
    key ∈ registry.consensus.keys →
      ∃ d, (registry.createProxy S scope entropy delegator).answer = .ok d ∧
        (registry.createProxy S scope entropy delegator).events =
          [signedFor scope .consensus key (some key), proxyRegistered scope d.message.proxy key]
  queries : ∀ action : Action, action.isQuery = true →
    (registry.perform S ⟨scope, action⟩).events = []

theorem add_consensus_trail (registry : Registry) (scope : Scope) (signer : Signer) :
    (registry.addConsensus scope signer).events =
      [consensusRegistered scope (decide (signer.pubkey ∈ registry.consensus.keys))
        signer.pubkey] := by
  have replaced : registry.consensus.has signer.pubkey =
      decide (signer.pubkey ∈ registry.consensus.keys) := by
    rw [Bool.eq_iff_iff, decide_eq_true_iff]
    exact registry.consensus.has_iff_mem_keys signer.pubkey
  rw [Registry.addConsensus, replaced, key_scope_tagged _ _ _ (by decide)]
  rfl

theorem add_proxy_trail (registry : Registry) (scope : Scope) (proxy : ProxySigner) :
    (registry.addProxy scope proxy).events =
      [proxyRegistered scope proxy.pubkey proxy.delegation.message.delegator] := by
  rw [Registry.addProxy, delegator_scope_tagged _ _ _ _ (by decide)]
  rfl

theorem sign_unknown_trail (registry : Registry) (outer : Scope) (role : Role) (pubkey : Value)
    (message : Message) (key : Bytes) (read : toPubkey pubkey = .ok key)
    (absent : key ∉ registry.heldKeys role) :
    (registry.sign S outer role pubkey message).events = [unknownEvent outer role key] := by
  rw [sign_unknown S registry outer role pubkey message key read
    ((signer_absent_iff registry role key).mpr absent)]

theorem sign_known_trail (registry : Registry) (outer : Scope) (role : Role) (pubkey : Value)
    (message : Message) (key : Bytes) (read : toPubkey pubkey = .ok key)
    (held : key ∈ registry.heldKeys role) :
    (registry.sign S outer role pubkey message).events = [signingEvent outer role key] := by
  obtain ⟨signer, found⟩ := (signer_held_iff registry role key).mpr held
  rw [sign_known S registry outer role pubkey message key signer read found]

theorem create_unknown_trail (keyed : S.Keyed) (signing : S.Signing) (registry : Registry)
    (scope : Scope) (entropy : Bytes) (delegator : Value) (key : Bytes)
    (read : toPubkey delegator = .ok key) (absent : key ∉ registry.consensus.keys) :
    (registry.createProxy S scope entropy delegator).events =
      [refusedFor scope .consensus key (some key)] := by
  obtain ⟨signer, made⟩ := Signer.of_entropy_exists keyed signing entropy
  have sized := Signer.made_length keyed signer (Signer.of_entropy_made entropy signer made)
  have again := to_pubkey_idempotent delegator key read
  have asked : (registry.askDelegator S scope key signer).answer =
      .error (.refused ⟨.consensus, key⟩) :=
    sign_lookup_fails registry _ .consensus (.bytes key) _ _ (.unknown key again absent)
  rw [create_proxy_unsigned S registry scope entropy delegator key signer _ read made sized asked]
  change (registry.askDelegator S scope key signer).events = _
  rw [askDelegator, sign_unknown_trail registry _ .consensus _ _ key again absent, unknownEvent,
    delegator_scope_tagged _ _ _ _ (by decide)]
  rfl

theorem create_known_trail (keyed : S.Keyed) (signing : S.Signing) (registry : Registry)
    (consistent : registry.Consistent S) (scope : Scope) (entropy : Bytes) (delegator : Value)
    (key : Bytes) (read : toPubkey delegator = .ok key) (held : key ∈ registry.consensus.keys) :
    ∃ d, (registry.createProxy S scope entropy delegator).answer = .ok d ∧
      (registry.createProxy S scope entropy delegator).events =
        [signedFor scope .consensus key (some key), proxyRegistered scope d.message.proxy key] := by
  obtain ⟨signer, made⟩ := Signer.of_entropy_exists keyed signing entropy
  have sized := Signer.made_length keyed signer (Signer.of_entropy_made entropy signer made)
  have again := to_pubkey_idempotent delegator key read
  obtain ⟨root, rooted, size⟩ := delegation_root_exists ⟨key, signer.pubkey⟩
  obtain ⟨signature, asked, length⟩ := sign_succeeds keyed signing registry consistent
    (delegatorScope scope key) .consensus (.bytes key) (.delegation ⟨key, signer.pubkey⟩) key root
    again held rooted size
  have question : (registry.askDelegator S scope key signer).events =
      [signedFor scope .consensus key (some key)] := by
    rw [askDelegator, sign_known_trail registry _ .consensus _ _ key again held, signingEvent,
      delegator_scope_tagged _ _ _ _ (by decide)]
    rfl
  refine ⟨⟨⟨key, signer.pubkey⟩, signature⟩, ?_⟩
  rw [create_proxy_signed S registry scope entropy delegator key signer signature read made sized
    asked, keep_stores registry _ signer ⟨key, signer.pubkey⟩ signature length rfl, question]
  -- The registration sets the delegator once more, to the same key.
  exact ⟨rfl, congrArg _ (add_proxy_trail registry (delegatorScope scope key) _)⟩

theorem consistent_audit_trail (keyed : S.Keyed) (signing : S.Signing) (registry : Registry)
    (consistent : registry.Consistent S) (scope : Scope) : AuditTrail S registry scope where
  addConsensus := add_consensus_trail registry scope
  addProxy := add_proxy_trail registry scope
  signMalformed role pubkey message fault refused := by
    rw [sign_malformed S registry scope role pubkey message fault refused]
    rfl
  signUnknown role pubkey message key named read absent := by
    rw [sign_unknown_trail registry scope role pubkey message key read absent, unknownEvent,
      key_scope_tagged scope role key named]
    rfl
  signKnown role pubkey message key named read held := by
    rw [sign_known_trail registry scope role pubkey message key read held, signingEvent,
      key_scope_tagged scope role key named]
    rfl
  createMalformed entropy delegator fault refused := by
    rw [create_proxy_malformed S registry scope entropy delegator fault refused]
    rfl
  createUnknown entropy delegator key read absent :=
    create_unknown_trail keyed signing registry scope entropy delegator key read absent
  createKnown entropy delegator key read held :=
    create_known_trail keyed signing registry consistent scope entropy delegator key read held
  queries action query := by
    cases action with
    | addConsensus | addProxy | createProxy | sign => cases query
    | _ => rfl

def recordLevels : List Int := [debug, info, warning]

theorem sign_levels (registry : Registry) (scope : Scope) (role : Role) (pubkey : Value)
    (message : Message) (event : Event)
    (told : event ∈ (registry.sign S scope role pubkey message).events) :
    event.level ∈ recordLevels := by
  cases read : toPubkey pubkey with
  | error fault =>
      rw [sign_malformed S registry scope role pubkey message fault read] at told
      cases told
  | ok key =>
      by_cases held : key ∈ registry.heldKeys role
      · rw [sign_known_trail registry scope role pubkey message key read held] at told
        rw [List.mem_singleton.mp told]
        exact .head _
      · rw [sign_unknown_trail registry scope role pubkey message key read held] at told
        rw [List.mem_singleton.mp told]
        exact .tail _ (.tail _ (.head _))

theorem create_levels (keyed : S.Keyed) (signing : S.Signing) (registry : Registry)
    (consistent : registry.Consistent S) (scope : Scope) (entropy : Bytes) (delegator : Value)
    (event : Event) (told : event ∈ (registry.createProxy S scope entropy delegator).events) :
    event.level ∈ recordLevels := by
  cases read : toPubkey delegator with
  | error fault =>
      rw [create_proxy_malformed S registry scope entropy delegator fault read] at told
      cases told
  | ok key =>
      by_cases held : key ∈ registry.consensus.keys
      · obtain ⟨d, _, trail⟩ := create_known_trail keyed signing registry consistent scope entropy
          delegator key read held
        rw [trail, List.mem_cons, List.mem_singleton] at told
        rcases told with rfl | rfl
        · exact .head _
        · exact .tail _ (.head _)
      · rw [create_unknown_trail keyed signing registry scope entropy delegator key read held]
          at told
        rw [List.mem_singleton.mp told]
        exact .tail _ (.tail _ (.head _))

theorem perform_levels (keyed : S.Keyed) (signing : S.Signing) (registry : Registry)
    (consistent : registry.Consistent S) (move : Move) (event : Event)
    (told : event ∈ (registry.perform S move).events) : event.level ∈ recordLevels := by
  obtain ⟨scope, action⟩ := move
  cases action with
  | addConsensus source =>
      rw [perform] at told
      dsimp only at told
      cases made : source.signer S with
      | error fault =>
          rw [made] at told
          cases told
      | ok signer =>
          rw [made] at told
          rw [List.mem_singleton.mp told]
          exact .tail _ (.head _)
  | addProxy source delegation =>
      rw [perform] at told
      dsimp only at told
      cases made : source.proxy S delegation with
      | error fault =>
          rw [made] at told
          cases told
      | ok proxy =>
          rw [made] at told
          rw [List.mem_singleton.mp told]
          exact .tail _ (.head _)
  | createProxy entropy delegator =>
      exact create_levels keyed signing registry consistent scope entropy delegator event told
  | sign role pubkey message => exact sign_levels registry scope role pubkey message event told
  | _ => cases told

end Registry

-- What a command asks of the registry, if it asks for one thing.
def Command.action? : Command → Option Registry.Action
  | .addConsensus source => some (.addConsensus source)
  | .addProxy delegation source =>
    (SignedDelegation.ofValue delegation).toOption.map fun d => .addProxy source d
  | .request (.createProxy entropy delegator) => some (.createProxy entropy delegator)
  | .request (.sign role pubkey message) => some (.sign role pubkey message)
  | .hasConsensus pubkey => some (.hasConsensus pubkey)
  | .hasProxy pubkey => some (.hasProxy pubkey)
  | .getDelegation pubkey => some (.getDelegation pubkey)
  | .consensusKeys => some .consensusKeys
  | .proxyKeys => some .proxyKeys
  | .delegations => some .delegations
  | _ => none

namespace Session

variable {S : Scheme}

def printed (session : Session) (format : Log.Format) (event : Event) : Text :=
  match (session.eventEntry event).line? format with
  | some line => line ++ "\n"
  | none => []

-- The records that the level of the sink lets through, each with its line.
def shown (session : Session) (events : List Event) : Text :=
  match session.sink.handler with
  | some format =>
    (events.filter fun event => session.sink.level ≤ event.level).flatMap (session.printed format)
  | none => []

theorem write_shown (session : Session) (event : Event)
    (level : event.level ∈ Registry.recordLevels) :
    session.sink.write (session.eventEntry event) = session.shown [event] := by
  have positive : ∀ level ∈ Registry.recordLevels, 0 < level := by decide
  rw [Log.Sink.write, shown]
  cases session.sink.handler with
  | none => rfl
  | some format =>
      have admitted : session.sink.admits event.level =
          decide (session.sink.level ≤ event.level) := by
        simp [Log.Sink.admits, positive event.level level]
      change (if session.sink.admits event.level then
        session.printed format event else []) = _
      rw [admitted]
      by_cases loud : session.sink.level ≤ event.level
      · simp [loud]
      · simp [loud]

theorem shown_cons (session : Session) (event : Event) (rest : List Event) :
    session.shown (event :: rest) = session.shown [event] ++ session.shown rest := by
  rw [shown, shown, shown]
  cases session.sink.handler with
  | none => rfl
  | some format =>
      change ((([event] ++ rest).filter _).flatMap _) = _
      rw [List.filter_append, List.flatMap_append]

theorem report_shown (session : Session) (events : List Event)
    (levels : ∀ event ∈ events, event.level ∈ Registry.recordLevels) :
    session.report events = session.shown events := by
  induction events with
  | nil =>
      rw [report, shown]
      cases session.sink.handler <;> rfl
  | cons event rest ih =>
      have later := ih fun event member => levels event (List.mem_cons_of_mem _ member)
      rw [shown_cons, ← write_shown session event (levels event List.mem_cons_self), ← later]
      rfl

theorem command_report (session : Session) (command : Command) (action : Registry.Action)
    (asked : command.action? = some action) :
    (session.perform S command).2.output =
      session.report (session.registry.perform S ⟨session.scope, action⟩).events := by
  cases command with
  | addConsensus source =>
      cases asked
      rw [perform, addConsensus, Registry.perform]
      dsimp only
      cases source.signer S <;> rfl
  | addProxy delegation source =>
      rw [Command.action?] at asked
      rw [perform, addProxy]
      cases read : SignedDelegation.ofValue delegation with
      | error fault =>
          rw [read] at asked
          cases asked
      | ok d =>
          rw [read] at asked
          cases asked
          simp only [Registry.perform, bind, Except.bind]
          cases source.proxy S d <;> rfl
  | request request => cases request <;> cases asked <;> rfl
  | hasConsensus | hasProxy | getDelegation | consensusKeys | proxyKeys | delegations =>
      cases asked
      rfl
  | _ => cases asked

end Session

namespace Registry

variable {S : Scheme}

def recordedScope : Scope := ⟨some "proxy", some "0x00", some "0x01", some "caller"⟩

theorem audit_trail_exact (keyed : S.Keyed) (signing : S.Signing) (chain : Chain)
    (registry : Registry) (reached : Reachable S chain registry) :
    (∀ scope, AuditTrail S registry scope) ∧
    ∀ session : Session, session.registry = registry → ∀ command action,
      command.action? = some action →
        (session.perform S command).2.output =
          session.shown (registry.perform S ⟨session.scope, action⟩).events := by
  have consistent := reachable_consistent chain registry reached
  refine ⟨consistent_audit_trail keyed signing registry consistent, ?_⟩
  intro session same command action asked
  subst same
  rw [Session.command_report session command action asked]
  exact session.report_shown _ (perform_levels keyed signing session.registry consistent _)

theorem recorded_audit_trail_exact :
    (Recorded.registry.sign Recorded.scheme recordedScope .consensus (.buffer Recorded.holderKey)
      (.root [0])).events = [signedFor recordedScope .consensus Recorded.holderKey none] ∧
    (Recorded.registry.sign Recorded.scheme recordedScope .consensus (.buffer Recorded.proxyKey)
      (.root [0])).events = [refusedFor recordedScope .consensus Recorded.proxyKey none] ∧
    (∃ d, (Recorded.registry.createProxy Recorded.scheme recordedScope Recorded.entropy
      (.buffer Recorded.holderKey)).events =
        [signedFor recordedScope .consensus Recorded.holderKey (some Recorded.holderKey),
          proxyRegistered recordedScope d Recorded.holderKey]) ∧
    (signedFor recordedScope .consensus Recorded.holderKey none).scope =
      ⟨some "consensus", some (Hex.abbreviate Recorded.holderKey), some "0x01", some "caller"⟩ := by
  obtain ⟨trail, _⟩ := audit_trail_exact Recorded.keyed Recorded.signing .mainnet
    Recorded.registry ⟨_, rfl⟩
  have holderRead : toPubkey (.buffer Recorded.holderKey) = .ok Recorded.holderKey :=
    to_pubkey_raw Recorded.holderKey (Bytes.length_big_endian _ _)
  have proxyRead : toPubkey (.buffer Recorded.proxyKey) = .ok Recorded.proxyKey :=
    to_pubkey_raw Recorded.proxyKey (Bytes.length_big_endian _ _)
  have absent : Recorded.proxyKey ∉ Recorded.registry.heldKeys .consensus := by decide +kernel
  have holder : Recorded.holderKey ∈ Recorded.registry.consensus.keys := by decide +kernel
  refine ⟨?_, ?_, ?_, rfl⟩
  · exact (trail recordedScope).signKnown .consensus _ _ _ (by decide) holderRead holder
  · exact (trail recordedScope).signUnknown .consensus _ _ _ (by decide) proxyRead absent
  · obtain ⟨d, _, events⟩ :=
      (trail recordedScope).createKnown Recorded.entropy _ _ holderRead holder
    exact ⟨d.message.proxy, events⟩

end Registry

end KeyCustody
