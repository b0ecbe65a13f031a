import KeyCustody.Proofs.Blocks
import KeyCustody.Proofs.Recorded

/-!
Scopes nest and come back. The requests for signatures and keys are themselves programs of blocks
around their records, up to three deep, and they leave the scope as they found it.
-/

set_option autoImplicit false

namespace KeyCustody

/-! ## Blocks of the registry -/

namespace Scope

theorem field_name_injective (field other : Field) (same : field.name = other.name) :
    field = other := by
  cases field <;> cases other <;> first | rfl | exact absurd same (by decide)

theorem field_name_known (field : Field) : field.name ∈ tagNames := by
  cases field <;> decide

end Scope

namespace Keywords

def ofFields (fields : List (Scope.Field × Option Text))
    (distinct : (fields.map (·.1)).Nodup) : Keywords where
  tags := fields.map fun (field, value) => (field.name, value)
  distinct := by
    have names := distinct.map fun _ _ => Scope.field_name_injective _ _
    rw [List.map_map] at names ⊢
    exact names

theorem of_fields_known (fields : List (Scope.Field × Option Text))
    (distinct : (fields.map (·.1)).Nodup) : (ofFields fields distinct).Known := by
  intro name given
  rw [names, ofFields, List.map_map] at given
  obtain ⟨⟨field, value⟩, _, rfl⟩ := List.mem_map.mp given
  exact Scope.field_name_known field

def key (role : Role) (key : Bytes) : Keywords :=
  ofFields [(.keyRole, role.tag?.map Text.ofString), (.pubkey, some (Hex.abbreviate key))]
    (by simp)

def delegator (delegator : Bytes) : Keywords :=
  ofFields [(.delegator, some (Hex.abbreviate delegator))] (by simp)

def proxy (key delegator : Bytes) : Keywords :=
  ofFields [(.keyRole, some "proxy"), (.pubkey, some (Hex.abbreviate key)),
    (.delegator, some (Hex.abbreviate delegator))] (by simp)

end Keywords

namespace Program

def record (level : Int) (template : Text) (arguments : List Value)
    (answer : Except Raised Reply) : Program :=
  .work ⟨⟨none, .log Session.registryLogger level template arguments none⟩, rfl⟩
    fun _ => .finish answer

def attempt {α : Type} (answer : Except Fault α) (next : α → Program) : Program :=
  match answer with
  | .error fault => .finish (.error (.fault fault))
  | .ok value => next value

end Program

namespace Registry

open Program

def putConsensus (signer : Signer) (registry : Registry) : Registry :=
  { registry with consensus := registry.consensus.put signer.pubkey signer }

def putProxy (proxy : ProxySigner) (registry : Registry) : Registry :=
  { registry with proxies := registry.proxies.put proxy.pubkey proxy }

def replacedText (registry : Registry) (signer : Signer) : String :=
  if registry.consensus.has signer.pubkey then " (replaced existing)" else ""

def addConsensusBlocks (signer : Signer) : Program :=
  .access (putConsensus signer) fun registry =>
    .block (.key .consensus signer.pubkey)
      (record info "Registered consensus signer%s" [.text (registry.replacedText signer)]
        (.ok .nothing))
      .finish

def addProxyBlocks (proxy : ProxySigner) (next : Except Raised Reply → Program) : Program :=
  .access (putProxy proxy) fun _ =>
    .block (.proxy proxy.pubkey proxy.delegation.message.delegator)
      (record info "Registered proxy signer" [] (.ok .nothing)) next

variable (S : Scheme)

def signBlocks (role : Role) (pubkey : Value) (message : Message)
    (next : Except Raised Reply → Program) : Program :=
  match toPubkey pubkey with
  | .error fault => next (.error (.fault fault))
  | .ok key =>
    .block (.key role key)
      (.access id fun registry =>
        match registry.signer? role key with
        | none =>
          record warning ("Sign request for " ++ role.refusalText : String) []
            (.error (.fault (.refused ⟨role, key⟩)))
        | some signer =>
          record debug "Signing" []
            (raised ((signer.sign S registry.chain message).map .bytes)))
      next

def keepBlocks (signer : Signer) (message : Delegation) (signature : Bytes) : Program :=
  attempt (SignedDelegation.make message signature) fun delegation =>
    attempt (ProxySigner.make signer delegation) fun proxy =>
      addProxyBlocks proxy fun _ => .finish (.ok (.delegation delegation))

-- The delegator signs inside the block that names it, and the new key is stored there as well.
def createProxyBlocks (entropy : Bytes) (delegator : Value) : Program :=
  attempt (toPubkey delegator) fun key =>
    .block (.delegator key)
      (attempt (Signer.ofEntropy S entropy) fun signer =>
        attempt (Delegation.make (.bytes key) (.bytes signer.pubkey)) fun message =>
          signBlocks S .consensus (.bytes key) (.delegation message) fun
            | .ok (.bytes signature) => keepBlocks signer message signature
            | answer => .finish answer)
      .finish

end Registry

open Registry in
def Command.blocks? (S : Scheme) : Command → Option Program
  | .addConsensus source => some (.attempt (source.signer S) addConsensusBlocks)
  | .addProxy delegation source =>
    some (.attempt (SignedDelegation.ofValue delegation) fun delegation =>
      .attempt (source.proxy S delegation) fun proxy => addProxyBlocks proxy .finish)
  | .request (.createProxy entropy delegator) => some (createProxyBlocks S entropy delegator)
  | .request (.sign role pubkey message) => some (signBlocks S role pubkey message .finish)
  | _ => none

namespace Session

variable (S : Scheme)

/-! ## Running them -/

theorem block_left (session : Session) (keywords : Keywords) (body : Program)
    (known : keywords.Known) (ending : Ending)
    (ended : (session.entering keywords).exec S body = ending) :
    session.inBlock S keywords (fun inside => inside.exec S body) =
      ⟨{ ending.session with scopes := session.scopes }, ending.records, ending.answer⟩ := by
  have kept := exec_scopes S (session.entering keywords) body
  rw [ended] at kept
  rw [block_known S session keywords _ known, ended, kept]
  rfl

theorem exec_known_block (session : Session) (keywords : Keywords) (body : Program)
    (next : Except Raised Reply → Program) (known : keywords.Known) (ending : Ending)
    (ended : (session.entering keywords).exec S body = ending) :
    session.exec S (.block keywords body next) =
      ({ ending.session with scopes := session.scopes }.exec S (next ending.answer)).behind
        ending.records := by
  rw [exec, block_left S session keywords body known ending ended]

def registryRecord (session : Session) (level : Int) (message : Text) : Log.Entry :=
  ⟨session.time, level, registryLogger, message, session.scope, none⟩

theorem exec_record (session : Session) (level : Int) (template message : Text)
    (arguments : List Value) (answer : Except Raised Reply)
    (fits : Log.format? template arguments = some message) :
    session.exec S (.record level template arguments answer) =
      ⟨session, [session.registryRecord level message], answer⟩ := by
  rw [Program.record, exec]
  simp only [advance, perform, log, timed, records, logged, fits, exec, Ending.behind,
    List.append_nil]
  rfl

-- What a program comes to that goes on behind a command.
def followed (moved : Session × Response) (records : List Log.Entry)
    (next : Except Raised Reply → Program) : Ending :=
  (moved.1.exec S (next (raised moved.2.answer))).behind records

theorem key_scope_entered (session : Session) (role : Role) (key : Bytes) :
    (session.entering (.key role key)).scope = Registry.keyScope session.scope role key := by
  cases role <;> rfl

theorem exec_sign_blocks (session : Session) (role : Role) (pubkey : Value) (message : Message)
    (next : Except Raised Reply → Program) :
    session.exec S (Registry.signBlocks S role pubkey message next) =
      followed S (session.perform S (.request (.sign role pubkey message)))
        (session.requestRecords S (.sign role pubkey message)) next := by
  rw [Registry.signBlocks, perform, serve, settle, requestRecords, followed]
  cases read : toPubkey pubkey with
  | error fault =>
      rw [Registry.sign_malformed S _ _ role pubkey message fault read]
      rfl
  | ok key =>
      have known := Keywords.of_fields_known
      have inside := key_scope_entered session role key
      cases found : session.registry.signer? role key with
      | none =>
          rw [Registry.sign_unknown S _ _ role pubkey message key read found,
            Registry.unknownEvent, ← inside]
          refine exec_known_block S session (.key role key) _ next (known _ _)
            ⟨session.entering (.key role key), _, _⟩ ?_
          rw [exec, entering]
          simp only [found]
          exact exec_record S _ _ _ _ [] _ rfl
      | some signer =>
          rw [Registry.sign_known S _ _ role pubkey message key signer read found,
            Registry.signingEvent, ← inside]
          refine exec_known_block S session (.key role key) _ next (known _ _)
            ⟨session.entering (.key role key), _, _⟩ ?_
          rw [exec, entering]
          simp only [found]
          exact exec_record S _ _ _ _ [] _ rfl

theorem exec_add_consensus_blocks (session : Session) (signer : Signer) :
    session.exec S (Registry.addConsensusBlocks signer) =
      followed S
        (session.settle (session.registry.addConsensus session.scope signer) fun () => .nothing)
        (session.reported (session.registry.addConsensus session.scope signer).events)
        .finish := by
  have fits : Log.format? "Registered consensus signer%s"
      [.text (session.registry.replacedText signer)] =
        some ("Registered consensus signer" ++ session.registry.replacedText signer : String) := by
    rw [Registry.replacedText]
    cases session.registry.consensus.has signer.pubkey <;> decide +kernel
  rw [Registry.addConsensusBlocks, exec, settle, Registry.addConsensus, followed,
    ← key_scope_entered]
  exact exec_known_block S _ (.key .consensus signer.pubkey) _ .finish
    (Keywords.of_fields_known _ _) ⟨_, _, _⟩ (exec_record S _ _ _ _ _ _ fits)

theorem exec_add_proxy_blocks (session : Session) (proxy : ProxySigner)
    (next : Except Raised Reply → Program) :
    session.exec S (Registry.addProxyBlocks proxy next) =
      followed S
        (session.settle (session.registry.addProxy session.scope proxy) fun () => .nothing)
        (session.reported (session.registry.addProxy session.scope proxy).events) next := by
  rw [Registry.addProxyBlocks, exec, settle, Registry.addProxy, followed]
  exact exec_known_block S _ (.proxy proxy.pubkey proxy.delegation.message.delegator) _ next
    (Keywords.of_fields_known _ _) ⟨_, _, _⟩ (exec_record S _ _ _ _ [] _ rfl)

theorem followed_finish (moved : Session × Response) (records : List Log.Entry) :
    followed S moved records .finish = ⟨moved.1, records, raised moved.2.answer⟩ := by
  simp only [followed, exec, Ending.behind, List.append_nil]

theorem exec_keep_blocks (session : Session) (signer : Signer) (message : Delegation)
    (signature : Bytes) :
    session.exec S (Registry.keepBlocks signer message signature) =
      followed S
        (session.settle (session.registry.keep session.scope signer message signature) .delegation)
        (session.reported (session.registry.keep session.scope signer message signature).events)
        .finish := by
  rw [Registry.keepBlocks, Registry.keep]
  cases made : SignedDelegation.make message signature with
  | error fault => rfl
  | ok delegation =>
      cases joined : ProxySigner.make signer delegation with
      | error fault =>
          simp only [Program.attempt, joined, bind, Except.bind]
          rfl
      | ok proxy =>
          simp only [Program.attempt, joined, bind, Except.bind, pure, Except.pure]
          exact exec_add_proxy_blocks S session proxy _

-- Inside the block of the delegator its signature is asked for.
theorem ask_delegator_inside (session : Session) (key : Bytes) (signer : Signer) :
    (session.entering (.delegator key)).perform S
        (.request (.sign .consensus (.bytes key) (.delegation ⟨key, signer.pubkey⟩))) =
      (session.entering (.delegator key),
        ⟨(session.registry.askDelegator S session.scope key signer).answer.map .bytes,
          session.report (session.registry.askDelegator S session.scope key signer).events⟩) := by
  have kept := Registry.sign_keeps_registry S session.registry
    (Registry.delegatorScope session.scope key) .consensus (.bytes key)
    (.delegation ⟨key, signer.pubkey⟩)
  change (session.entering (.delegator key)).settle
    (session.registry.askDelegator S session.scope key signer) .bytes = _
  rw [settle, Registry.askDelegator, kept]
  rfl

theorem exec_create_proxy_blocks (session : Session) (entropy : Bytes) (delegator : Value) :
    session.exec S (Registry.createProxyBlocks S entropy delegator) =
      followed S (session.perform S (.request (.createProxy entropy delegator)))
        (session.requestRecords S (.createProxy entropy delegator)) .finish := by
  rw [Registry.createProxyBlocks, perform, serve, settle, requestRecords, followed]
  cases read : toPubkey delegator with
  | error fault =>
      rw [Registry.create_proxy_malformed S _ _ entropy delegator fault read]
      rfl
  | ok key =>
      refine exec_known_block S session (.delegator key) _ .finish
        (Keywords.of_fields_known _ _)
        ⟨{ session.entering (.delegator key) with
          registry := (session.registry.createProxy S session.scope entropy delegator).registry },
          _, _⟩ ?_
      cases made : Signer.ofEntropy S entropy with
      | error fault =>
          rw [Registry.create_proxy_unminted S _ _ entropy delegator key fault read made]
          rfl
      | ok signer =>
          cases named : Delegation.make (.bytes key) (.bytes signer.pubkey) with
          | error fault =>
              rw [Registry.create_proxy_unnamed S _ _ entropy delegator key signer fault read made
                named]
              simp only [Program.attempt, named]
              rfl
          | ok message =>
              obtain ⟨_, sized, rfl⟩ := (delegation_make_raw_iff key signer.pubkey message).mp named
              simp only [Program.attempt, named]
              rw [exec_sign_blocks, ask_delegator_inside, followed]
              cases asked : (session.registry.askDelegator S session.scope key signer).answer with
              | error fault =>
                  rw [Registry.create_proxy_unsigned S _ _ entropy delegator key signer fault read
                    made sized asked]
                  simp only [raised, Except.map, Except.mapError, exec, Ending.behind,
                    List.append_nil]
                  rfl
              | ok signature =>
                  rw [Registry.create_proxy_signed S _ _ entropy delegator key signer signature read
                    made sized asked]
                  simp only [raised, Except.map, Except.mapError]
                  rw [exec_keep_blocks, followed_finish]
                  simp only [Registry.after, reported, List.map_append, Ending.behind, settle]
                  rfl

theorem exec_command_blocks (session : Session) (command : Command) (blocks : Program)
    (told : command.blocks? S = some blocks) :
    session.exec S blocks =
      followed S (session.perform S command) (session.records S command) .finish := by
  cases command with
  | addConsensus source =>
      cases told
      rw [perform, addConsensus, records]
      cases source.signer S with
      | error fault => rfl
      | ok signer => exact exec_add_consensus_blocks S session signer
  | addProxy delegation source =>
      cases told
      rw [perform, addProxy, records]
      cases SignedDelegation.ofValue delegation with
      | error fault => rfl
      | ok d =>
          simp only [Program.attempt, bind, Except.bind]
          cases source.proxy S d with
          | error fault => rfl
          | ok proxy => exact exec_add_proxy_blocks S session proxy .finish
  | request request =>
      cases request with
      | createProxy entropy delegator =>
          cases told
          exact exec_create_proxy_blocks S session entropy delegator
      | sign role pubkey message =>
          cases told
          exact exec_sign_blocks S session role pubkey message .finish
  | _ => cases told

-- What a block comes to: a failure of its own leaves no trace, and one inside goes on behind it.
structure BlockEnds (session : Session) (keywords : Keywords) (body : Program) : Prop where
  refused : ¬ keywords.Known →
    ∃ names, (∀ name, name ∈ names ↔ name ∈ keywords.names ∧ name ∉ Scope.tagNames) ∧
      session.inBlock S keywords (fun inside => inside.exec S body) =
        ⟨session, [], .error (.fault (.scopeTags names))⟩
  left : keywords.Known → ∀ ending,
    (session.perform S (.enterScope keywords.tags)).1.exec S body = ending →
      session.inBlock S keywords (fun inside => inside.exec S body) =
        ⟨{ ending.session with scopes := session.scopes }, ending.records, ending.answer⟩

theorem block_ends (session : Session) (keywords : Keywords) (body : Program) :
    BlockEnds S session keywords body where
  refused unknown :=
    ⟨Scope.unknownNames keywords.tags, keywords.mem_unknown_names_iff,
      block_unknown S session keywords _ unknown⟩
  left known ending ended := by
    rw [enter_known S session keywords known] at ended
    exact block_left S session keywords body known ending ended

theorem scopes_nest_and_return (session : Session) (program : Program) :
    (∀ blocks place, Visits S session program blocks place →
      ScopeWithin session.scope blocks place.scope) ∧
    (session.exec S program).session.scopes = session.scopes ∧
    (∀ keywords body, BlockEnds S session keywords body) ∧
    (∀ command, command.isScoping = false →
      (session.perform S command).1.scopes = session.scopes) ∧
    ∀ command blocks, command.blocks? S = some blocks →
      session.exec S blocks =
        ⟨(session.perform S command).1, session.records S command,
          raised (session.perform S command).2.answer⟩ ∧
      (session.perform S command).2.output =
        (session.exec S blocks).records.flatMap session.sink.write := by
  refine ⟨visits_within S session program, exec_scopes S session program, block_ends S session,
    perform_scopes S session, fun command blocks told => ?_⟩
  rw [exec_command_blocks S session command blocks told, followed_finish]
  exact ⟨rfl, perform_output S session command⟩

def outerKeywords : Keywords :=
  .ofFields [(.caller, some "preconf"), (.delegator, some "0x01")] (by simp)

def innerKeywords : Keywords := ⟨[("delegator", none), ("key_role", some "consensus")], by decide⟩

-- Two blocks around a request that fails; its failure leaves them both.
def failingInside : Program :=
  .block outerKeywords
    (.block innerKeywords
      (.work ⟨⟨none, .request (.sign .consensus (.bytes []) (.root []))⟩, rfl⟩
        fun response => .finish (raised response.answer))
      .finish)
    .finish

theorem failing_inside_returns :
    ScopeWithin .empty [innerKeywords, outerKeywords]
        ⟨some "consensus", none, some "0x01", some "preconf"⟩ ∧
      ((start .mainnet).exec Recorded.scheme failingInside).session.scopes = [] ∧
      ((start .mainnet).exec Recorded.scheme failingInside).answer.isOk = false := by
  obtain ⟨within, kept, _⟩ :=
    scopes_nest_and_return Recorded.scheme (start .mainnet) failingInside
  have outerKnown : outerKeywords.Known := Keywords.of_fields_known _ _
  have innerKnown : innerKeywords.Known := by
    unfold Keywords.Known
    decide
  have outerEntered (session : Session) := enter_known Recorded.scheme session _ outerKnown
  have innerEntered (session : Session) := enter_known Recorded.scheme session _ innerKnown
  obtain ⟨place, visits, shown⟩ : ∃ place,
      Visits Recorded.scheme (start .mainnet) failingInside [innerKeywords, outerKeywords] place ∧
        place.scope = ⟨some "consensus", none, some "0x01", some "preconf"⟩ :=
    ⟨_, .inside _ _ _ _ _ _ _ (congrArg (·.2.answer) (outerEntered _))
      (.inside _ _ _ _ _ _ _ (congrArg (·.2.answer) (innerEntered _))
        (.work _ _ _ _ _ (.here _ _))), by decide +kernel⟩
  exact ⟨shown ▸ within _ place visits, kept, by decide +kernel⟩

end Session

end KeyCustody
