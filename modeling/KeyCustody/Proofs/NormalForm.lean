import KeyCustody.Proofs.Refusals

/-!
Keys in their normal form: forty-eight raw bytes. However a session was asked, it stores its entries
under such keys, and such keys are what its answers and refusals name.
-/

set_option autoImplicit false

namespace KeyCustody

def Normal (key : Bytes) : Prop := toPubkey (.bytes key) = .ok key

theorem normal_iff_length (key : Bytes) : Normal key ↔ key.length = pubkeyLength :=
  ⟨to_pubkey_length (.bytes key) key, to_pubkey_raw key⟩

theorem read_normal (value : Value) (key : Bytes) (read : toPubkey value = .ok key) : Normal key :=
  to_pubkey_idempotent value key read

-- The keys that an answer names.
inductive Named : Except Fault Reply → Bytes → Prop
  | refused (refusal : Refusal) : Named (.error (.refused refusal)) refusal.pubkey
  | listed (keys : List Bytes) (key : Bytes) (member : key ∈ keys) : Named (.ok (.keys keys)) key
  | delegator (d : SignedDelegation) : Named (.ok (.delegation d)) d.message.delegator
  | proxy (d : SignedDelegation) : Named (.ok (.delegation d)) d.message.proxy
  | delegators (list : List SignedDelegation) (d : SignedDelegation) (member : d ∈ list) :
      Named (.ok (.delegations list)) d.message.delegator
  | proxies (list : List SignedDelegation) (d : SignedDelegation) (member : d ∈ list) :
      Named (.ok (.delegations list)) d.message.proxy
  | gathered (answers : List (Except Fault Reply)) (answer : Except Fault Reply) (key : Bytes)
      (member : answer ∈ answers) (named : Named answer key) : Named (.ok (.batch answers)) key

def Fault.Normal : Fault → Prop
  | .refused refusal => KeyCustody.Normal refusal.pubkey
  | _ => True

theorem named_fault (fault : Fault) (normal : fault.Normal) (key : Bytes)
    (named : Named (.error fault) key) : Normal key := by
  cases named with
  | refused refusal => exact normal

theorem named_map {α : Type} (answer : Except Fault α) (reply : α → Reply)
    (faults : ∀ fault, answer = .error fault → fault.Normal)
    (values : ∀ value key, answer = .ok value → Named (.ok (reply value)) key → Normal key)
    (key : Bytes) (named : Named (answer.map reply) key) : Normal key := by
  cases answer with
  | error fault => exact named_fault fault (faults fault rfl) key named
  | ok value => exact values value key rfl named

/-! ## Faults -/

theorem as_record_fault {α : Type} (model : String) (checked : Checked α) (fault : Fault)
    (failed : checked.asRecord model = .error fault) : fault.Normal := by
  obtain ⟨faults, _, told⟩ := (map_error_error_iff checked _ fault).mp failed
  rw [← told, Checked.recordFault]
  split <;> trivial

theorem make_fault (S : Scheme) (backend : Backend) (fault : Fault)
    (failed : Signer.make S backend = .error fault) : fault.Normal := by
  cases backend with
  | foreign value =>
      cases failed
      trivial
  | plain secret =>
      have derived := (map_error_iff _ _ fault).mp failed
      rw [Scheme.pubkeyOf] at derived
      split at derived
      · cases derived
      · cases derived
        trivial

theorem secret_fault (S : Scheme) (data : Bytes) (fault : Fault)
    (failed : S.secretOfBytes data = .error fault) : fault.Normal := by
  rw [Scheme.secretOfBytes] at failed
  split at failed
  · cases failed
    trivial
  · dsimp only at failed
    split at failed
    · cases failed
    · cases failed
      trivial

theorem source_fault (S : Scheme) (source : KeySource) (fault : Fault)
    (failed : source.signer S = .error fault) : fault.Normal := by
  cases source with
  | backend held => exact make_fault S held fault failed
  | entropy data => exact make_fault S (.plain (S.generate data)) fault failed
  | secret data =>
      rw [KeySource.signer, Signer.ofBytes] at failed
      cases read : S.secretOfBytes data with
      | error other =>
          rw [read] at failed
          cases failed
          exact secret_fault S data fault read
      | ok secret =>
          rw [read] at failed
          exact make_fault S (.plain secret) fault failed

theorem proxy_fault (S : Scheme) (source : KeySource) (d : SignedDelegation) (fault : Fault)
    (failed : source.proxy S d = .error fault) : fault.Normal := by
  rw [KeySource.proxy] at failed
  cases made : source.signer S with
  | error other =>
      rw [made] at failed
      cases failed
      exact source_fault S source fault made
  | ok signer =>
      rw [made] at failed
      simp only [bind, Except.bind, ProxySigner.make] at failed
      split at failed
      · cases failed
        trivial
      · cases failed

theorem lookup_fault (registry : Registry) (role : Role) (pubkey : Value) (fault : Fault)
    (failed : registry.LookupFails role pubkey fault) : fault.Normal := by
  cases failed with
  | malformed => trivial
  | unknown key read _ => exact read_normal pubkey key read

theorem read_fault (value : Value) (fault : Fault) (failed : toPubkey value = .error fault) :
    fault.Normal := by
  obtain ⟨cause, rfl⟩ := to_pubkey_fault value fault failed
  trivial

theorem level_fault (level : Log.LevelChoice) (fault : Fault)
    (failed : level.level = .error fault) : fault.Normal := by
  cases level with
  | number n => cases failed
  | named name =>
      rw [Log.LevelChoice.level] at failed
      split at failed
      · cases failed
      · cases failed
        trivial

theorem tags_fault (tags : Scope.Tags) (fault : Fault) (failed : Scope.ofTags tags = .error fault) :
    fault.Normal := by
  rw [Scope.ofTags] at failed
  split at failed
  · cases failed
  · cases failed
    trivial

/-! ## What comes in ready-made -/

-- A message's own fault is told as it is, and a delegation that is there already is taken as it is.
-- Any key in them has to be in its normal form when it comes in; everything else is read here.
def Request.Genuine : Request → Prop
  | .sign _ _ (.failing fault) => fault.Normal
  | _ => True

def Command.Genuine : Command → Prop
  | .addProxy (.mapping entries) _ =>
      ∀ d, Value.field? entries "message" = some (.delegation d) → d.Sized
  | .request asked => asked.Genuine
  | .gather requests => ∀ asked ∈ requests, asked.Genuine
  | _ => True

theorem message_fault (role : Role) (pubkey : Value) (message : Message)
    (genuine : (Request.sign role pubkey message).Genuine) (fault : Fault)
    (failed : message.treeRoot = .error fault) : fault.Normal := by
  cases message with
  | slot n payload =>
      by_cases negative : n < 0
      · rw [Message.treeRoot, Message.slotBytes, if_pos negative] at failed
        cases failed
        trivial
      · by_cases large : Message.slotBound ≤ n
        · rw [Message.treeRoot, Message.slotBytes, if_neg negative, if_pos large] at failed
          cases failed
          trivial
        · rw [slot_root_top n payload (by omega) (by omega)] at failed
          cases failed
  | root bytes => cases failed
  | delegation d =>
      obtain ⟨node, rooted, _⟩ := delegation_root_exists d
      cases rooted.symm.trans failed
  | failing other =>
      cases failed
      exact genuine

theorem required_ok (entries : Value.Entries) (name : Text) {α : Type} (read : Value → Checked α)
    (result : α) (found : required entries name read = .ok result) :
    ∃ value, Value.field? entries name = some value ∧ read value = .ok result := by
  rw [required, checked_under_ok_iff] at found
  cases field : Value.field? entries name with
  | none =>
      rw [field] at found
      cases found
  | some value =>
      rw [field] at found
      exact ⟨value, rfl, found⟩

theorem bytes_field_length (length : Nat) (value : Value) (b : Bytes)
    (read : bytesField length value = .ok b) : b.length = length :=
  fixed_bytes_length length value b ((bytes_field_ok_iff length value b).mp read)

theorem delegation_sized (origin : Origin) (value : Value) (d : Delegation)
    (genuine : ∀ finished, value = .delegation finished → finished.Sized)
    (checked : Delegation.check origin value = .ok d) : d.Sized := by
  cases value with
  | delegation finished =>
      cases checked
      exact genuine d rfl
  | mapping entries =>
      rw [Delegation.check, map_ok_iff] at checked
      obtain ⟨⟨delegator, proxy⟩, both, rfl⟩ := checked
      obtain ⟨delegatorRead, proxyRead⟩ := (checked_both_ok_iff _ _ _).mp both
      obtain ⟨_, _, delegatorField⟩ := required_ok entries _ _ _ delegatorRead
      obtain ⟨_, _, proxyField⟩ := required_ok entries _ _ _ proxyRead
      exact ⟨bytes_field_length _ _ _ delegatorField, bytes_field_length _ _ _ proxyField⟩
  | _ => cases checked

theorem signed_delegation_sized (value : Value) (source : KeySource) (d : SignedDelegation)
    (genuine : (Command.addProxy value source).Genuine)
    (read : SignedDelegation.ofValue value = .ok d) : d.message.Sized := by
  rw [SignedDelegation.ofValue, as_record_ok_iff] at read
  cases value with
  | mapping entries =>
      rw [SignedDelegation.check, map_ok_iff] at read
      obtain ⟨⟨message, signature⟩, both, rfl⟩ := read
      obtain ⟨messageRead, _⟩ := (checked_both_ok_iff _ _ _).mp both
      obtain ⟨field, found, checked⟩ := required_ok entries _ _ _ messageRead
      refine delegation_sized .value field message (fun finished same => ?_) checked
      rw [same] at found
      exact genuine finished found
  | _ => cases read

/-! ## Registries -/

namespace Registry

variable {S : Scheme}

def Delegated (registry : Registry) : Prop :=
  ∀ key proxy, (key, proxy) ∈ registry.proxies → proxy.delegation.message.Sized

theorem put_delegated (registry : Registry) (delegated : registry.Delegated) (proxy : ProxySigner)
    (sized : proxy.delegation.message.Sized) :
    Delegated { registry with proxies := registry.proxies.put proxy.pubkey proxy } := by
  intro key stored member
  rcases registry.proxies.member_put _ _ _ member with fresh | old
  · cases fresh
    exact sized
  · exact delegated key stored old

theorem consensus_keys_normal (keyed : S.Keyed) (registry : Registry)
    (consistent : registry.Consistent S) (key : Bytes) (member : key ∈ registry.consensus.keys) :
    Normal key := by
  obtain ⟨signer, found⟩ := (registry.consensus.get_is_some_iff key).mpr member
  obtain ⟨rfl, made⟩ := consistent.consensus_signer registry key signer found
  exact (normal_iff_length _).mpr (Signer.made_length keyed signer made)

theorem proxy_keys_normal (keyed : S.Keyed) (registry : Registry)
    (consistent : registry.Consistent S) (key : Bytes) (member : key ∈ registry.proxies.keys) :
    Normal key := by
  obtain ⟨proxy, found⟩ := (registry.proxies.get_is_some_iff key).mpr member
  obtain ⟨rfl, made, _⟩ := consistent.proxy_signer registry key proxy found
  exact (normal_iff_length _).mpr (Signer.made_length keyed proxy.signer made)

theorem minting_sized (registry : Registry) (entropy : Bytes) (delegator : Value)
    (proxy : ProxySigner) (minting : Minting S registry entropy delegator proxy) :
    proxy.delegation.message.Sized :=
  ⟨to_pubkey_length delegator _ minting.delegated, minting.named ▸ minting.sized⟩

theorem sign_fault (keyed : S.Keyed) (signing : S.Signing) (registry : Registry)
    (consistent : registry.Consistent S) (scope : Scope) (role : Role) (pubkey : Value)
    (message : Message) (genuine : (Request.sign role pubkey message).Genuine) (fault : Fault)
    (failed : (registry.sign S scope role pubkey message).answer = .error fault) :
    fault.Normal := by
  have exactly := consistent_fails_exactly keyed signing registry consistent scope pubkey
  cases (exactly.signFails role message fault).mp failed with
  | lookup _ failed => exact lookup_fault registry role pubkey fault failed
  | rootless key _ _ _ failed => exact message_fault role pubkey message genuine fault failed
  | misshapen => trivial

theorem create_proxy_fault (keyed : S.Keyed) (signing : S.Signing) (registry : Registry)
    (consistent : registry.Consistent S) (scope : Scope) (entropy : Bytes) (delegator : Value)
    (fault : Fault)
    (failed : (registry.createProxy S scope entropy delegator).answer = .error fault) :
    fault.Normal :=
  lookup_fault registry .consensus delegator fault
    ((create_proxy_fails_iff keyed signing registry consistent scope entropy delegator fault).mp
      failed)

end Registry

/-! ## Sessions -/

namespace Session

variable {S : Scheme}

def NamesNormal (response : Response) : Prop :=
  ∀ key, Named response.answer key → Normal key

theorem serve_normal (keyed : S.Keyed) (signing : S.Signing) (session : Session)
    (consistent : session.registry.Consistent S) (delegated : session.registry.Delegated)
    (request : Request) (genuine : request.Genuine) :
    (session.serve S request).1.registry.Delegated ∧ NamesNormal (session.serve S request).2 := by
  cases request with
  | createProxy entropy delegator =>
      have faults := Registry.create_proxy_fault keyed signing session.registry consistent
        session.scope entropy delegator
      rcases Registry.create_proxy_cases S session.registry session.scope entropy delegator with
        ⟨fault, refused, same⟩ | ⟨proxy, minting, answered, stored⟩
      · refine ⟨?_, named_map _ _ faults fun d key told => ?_⟩
        · rw [serve, settle, same]
          exact delegated
        · cases refused.symm.trans told
      · have sized := Registry.minting_sized session.registry entropy delegator proxy minting
        refine ⟨?_, named_map _ _ faults fun d key told named => ?_⟩
        · rw [serve, settle, stored]
          exact Registry.put_delegated session.registry delegated proxy sized
        · cases answered.symm.trans told
          cases named with
          | delegator => exact (normal_iff_length _).mpr sized.1
          | proxy => exact (normal_iff_length _).mpr sized.2
  | sign role pubkey message =>
      have faults := Registry.sign_fault keyed signing session.registry consistent session.scope
        role pubkey message genuine
      refine ⟨?_, named_map _ _ faults fun signature key _ named => ?_⟩
      · rw [serve, settle, Registry.sign_keeps_registry]
        exact delegated
      · cases named

theorem serve_all_normal (keyed : S.Keyed) (signing : S.Signing) (session : Session)
    (consistent : session.registry.Consistent S) (delegated : session.registry.Delegated)
    (requests : List Request) (genuine : ∀ request ∈ requests, request.Genuine) :
    (session.serveAll S requests).1.registry.Delegated ∧
      ∀ response ∈ (session.serveAll S requests).2, NamesNormal response := by
  induction requests generalizing session with
  | nil => exact ⟨delegated, fun response member => by cases member⟩
  | cons request rest ih =>
      obtain ⟨kept, named⟩ := serve_normal keyed signing session consistent delegated request
        (genuine request List.mem_cons_self)
      obtain ⟨laterKept, laterNamed⟩ := ih (session.serve S request).1
        (serve_consistent session consistent request) kept
        (fun later member => genuine later (List.mem_cons_of_mem _ member))
      refine ⟨laterKept, fun response member => ?_⟩
      rcases List.mem_cons.mp member with here | later
      · rw [here]
        exact named
      · exact laterNamed response later

theorem add_consensus_normal (session : Session) (delegated : session.registry.Delegated)
    (source : KeySource) :
    (session.addConsensus S source).1.registry.Delegated ∧
      NamesNormal (session.addConsensus S source).2 := by
  rw [addConsensus]
  cases made : source.signer S with
  | error fault => exact ⟨delegated, named_fault fault (source_fault S source fault made)⟩
  | ok signer => exact ⟨delegated, fun key named => by cases named⟩

theorem add_proxy_normal (session : Session) (delegated : session.registry.Delegated)
    (delegation : Value) (source : KeySource)
    (genuine : (Command.addProxy delegation source).Genuine) :
    (session.addProxy S delegation source).1.registry.Delegated ∧
      NamesNormal (session.addProxy S delegation source).2 := by
  rw [addProxy]
  cases read : SignedDelegation.ofValue delegation with
  | error fault => exact ⟨delegated, named_fault fault (as_record_fault _ _ fault read)⟩
  | ok d =>
      have sized := signed_delegation_sized delegation source d genuine read
      simp only [bind, Except.bind]
      cases made : source.proxy S d with
      | error fault => exact ⟨delegated, named_fault fault (proxy_fault S source d fault made)⟩
      | ok proxy =>
          obtain ⟨_, stored, _⟩ := source.proxy_made S d proxy made
          exact ⟨Registry.put_delegated session.registry delegated proxy (stored ▸ sized),
            fun key named => by cases named⟩

theorem stored_sized (session : Session) (delegated : session.registry.Delegated)
    (d : SignedDelegation) (member : d ∈ session.registry.delegations) : d.message.Sized := by
  obtain ⟨⟨key, proxy⟩, stored, rfl⟩ := List.mem_map.mp member
  exact delegated key proxy stored

theorem setup_logging_normal (session : Session) (level : Log.LevelChoice) (format : Log.Format) :
    NamesNormal (session.setupLogging level format).2 := by
  rw [setupLogging, Log.Sink.setup]
  cases chosen : level.level with
  | error fault => exact named_fault fault (level_fault level fault chosen)
  | ok level => exact fun key named => by cases named

theorem perform_normal (keyed : S.Keyed) (signing : S.Signing) (session : Session)
    (consistent : session.registry.Consistent S) (delegated : session.registry.Delegated)
    (command : Command) (genuine : command.Genuine) :
    (session.perform S command).1.registry.Delegated ∧
      NamesNormal (session.perform S command).2 := by
  cases command with
  | addConsensus source => exact add_consensus_normal session delegated source
  | addProxy delegation source => exact add_proxy_normal session delegated delegation source genuine
  | request request =>
      exact serve_normal keyed signing session consistent delegated request genuine
  | gather requests =>
      obtain ⟨kept, named⟩ := serve_all_normal keyed signing session consistent delegated requests
        genuine
      refine ⟨kept, fun key told => ?_⟩
      cases told with
      | gathered _ _ _ member inner =>
          obtain ⟨response, served, rfl⟩ := List.mem_map.mp member
          exact named response served key inner
  | hasConsensus pubkey =>
      refine ⟨delegated, named_map _ _ (fun fault failed => ?_) fun _ _ _ named => by cases named⟩
      exact read_fault pubkey fault ((map_error_iff _ _ fault).mp failed)
  | hasProxy pubkey =>
      refine ⟨delegated, named_map _ _ (fun fault failed => ?_) fun _ _ _ named => by cases named⟩
      exact read_fault pubkey fault ((map_error_iff _ _ fault).mp failed)
  | getDelegation pubkey =>
      refine ⟨delegated, named_map _ _ (fun fault failed => ?_) fun d key told named => ?_⟩
      · exact lookup_fault session.registry .proxy pubkey fault
          ((Registry.get_delegation_fails_iff session.registry pubkey fault).mp failed)
      · obtain ⟨_, proxy, _, found, rfl⟩ :=
          (Registry.get_delegation_iff session.registry pubkey d).mp told
        have sized := delegated _ proxy (session.registry.proxies.get_member _ proxy found)
        cases named with
        | delegator => exact (normal_iff_length _).mpr sized.1
        | proxy => exact (normal_iff_length _).mpr sized.2
  | consensusKeys =>
      refine ⟨delegated, fun key named => ?_⟩
      cases named with
      | listed _ _ member =>
          exact Registry.consensus_keys_normal keyed session.registry consistent key member
  | proxyKeys =>
      refine ⟨delegated, fun key named => ?_⟩
      cases named with
      | listed _ _ member =>
          exact Registry.proxy_keys_normal keyed session.registry consistent key member
  | delegations =>
      refine ⟨delegated, fun key named => ?_⟩
      cases named with
      | delegators _ d member =>
          exact (normal_iff_length _).mpr (stored_sized session delegated d member).1
      | proxies _ d member =>
          exact (normal_iff_length _).mpr (stored_sized session delegated d member).2
  | chain => exact ⟨delegated, fun key named => by cases named⟩
  | setupLogging level format =>
      exact ⟨delegated, setup_logging_normal session level format⟩
  | applyConfig config =>
      rw [perform]
      cases read : LoggingConfig.ofValue config with
      | error fault => exact ⟨delegated, named_fault fault (as_record_fault _ _ fault read)⟩
      | ok config => exact ⟨delegated, setup_logging_normal session _ _⟩
  | enterScope tags =>
      rw [perform, enterScope]
      cases read : Scope.ofTags tags with
      | error fault => exact ⟨delegated, named_fault fault (tags_fault tags fault read)⟩
      | ok inner => exact ⟨delegated, fun key named => by cases named⟩
  | leaveScope raising =>
      cases raising with
      | false => exact ⟨delegated, fun key named => by cases named⟩
      | true => exact ⟨delegated, fun key named => by cases named⟩
  | showScope => exact ⟨delegated, fun key named => by cases named⟩
  | log logger level template arguments failure =>
      exact ⟨delegated, fun key named => by cases named⟩

theorem run_normal (keyed : S.Keyed) (signing : S.Signing) (session : Session)
    (consistent : session.registry.Consistent S) (delegated : session.registry.Delegated)
    (steps : List Step) (genuine : ∀ step ∈ steps, step.command.Genuine) :
    ∀ response ∈ (session.run S steps).2, NamesNormal response := by
  induction steps generalizing session with
  | nil => exact fun response member => by cases member
  | cons step rest ih =>
      have performed : (session.advance S step).1.registry.Delegated ∧
          NamesNormal (session.advance S step).2 := by
        obtain ⟨time, command⟩ := step
        have now := genuine ⟨time, command⟩ List.mem_cons_self
        cases time with
        | none => exact perform_normal keyed signing session consistent delegated command now
        | some time =>
            exact perform_normal keyed signing (session.atTime time) consistent delegated command
              now
      have later := ih (session.advance S step).1 (advance_consistent session consistent step)
        performed.1 (fun step member => genuine step (List.mem_cons_of_mem _ member))
      intro response member
      rcases List.mem_cons.mp member with here | after
      · rw [here]
        exact performed.2
      · exact later response after

end Session

end KeyCustody
