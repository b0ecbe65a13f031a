import KeyCustody.Proofs.View
import Mathlib.Data.List.Forall2

/-!
Secrets show in nothing but signatures: runs that differ only in the secrets behind equal public
keys write the same log, fail alike, give the same answers up to signatures, and end in sessions
that look alike.
-/

set_option autoImplicit false

namespace KeyCustody

/-! ## What is told of a run -/

mutual
def Reply.redacted : Reply → Reply
  | .bytes signature => .bytes (hidden signature)
  | .delegation d => .delegation d.redacted
  | .delegations list => .delegations (list.map SignedDelegation.redacted)
  | .batch replies => .batch (redactedReplies replies)
  | reply => reply

def redactedReplies : List (Except Fault Reply) → List (Except Fault Reply)
  | [] => []
  | answer :: rest => redactedAnswer answer :: redactedReplies rest

def redactedAnswer : Except Fault Reply → Except Fault Reply
  | .ok reply => .ok reply.redacted
  | .error fault => .error fault

end

theorem redacted_answer (answer : Except Fault Reply) :
    redactedAnswer answer = answer.map Reply.redacted := by
  cases answer with
  | error fault => rw [redactedAnswer, Except.map]
  | ok reply => rw [redactedAnswer, Except.map]

theorem redacted_replies (answers : List (Except Fault Reply)) :
    redactedReplies answers = answers.map fun answer => answer.map Reply.redacted := by
  induction answers with
  | nil => rw [redactedReplies, List.map_nil]
  | cons answer rest ih => rw [redactedReplies, List.map_cons, redacted_answer, ih]

def Response.redacted (response : Response) : Response :=
  ⟨response.answer.map Reply.redacted, response.output⟩

structure SessionView where
  registry : RegistryView
  scopes : List Scope
  sink : Log.Sink
  time : Log.Instant

def Session.view (session : Session) : SessionView :=
  ⟨session.registry.view, session.scopes, session.sink, session.time⟩

/-! ## Runs that differ in secrets only -/

-- Both fail in the same way, or both give signers with the same public key.
def KeySource.Alike (S : Scheme) (source other : KeySource) : Prop :=
  (source.signer S).map (·.pubkey) = (other.signer S).map (·.pubkey)

inductive Request.Alike (S : Scheme) : Request → Request → Prop
  | createProxy (entropy other : Bytes) (delegator : Value)
      (keys : KeySource.Alike S (.entropy entropy) (.entropy other)) :
      Alike S (.createProxy entropy delegator) (.createProxy other delegator)
  | sign (role : Role) (pubkey : Value) (message : Message) :
      Alike S (.sign role pubkey message) (.sign role pubkey message)

-- A delegation that one run got may be given back in it, with the signature of that run.
inductive Command.Alike (S : Scheme) : Command → Command → Prop
  | addConsensus (source other : KeySource) (keys : source.Alike S other) :
      Alike S (.addConsensus source) (.addConsensus other)
  | addProxy (delegation another : Value) (source other : KeySource)
      (delegations : (SignedDelegation.ofValue delegation).map SignedDelegation.redacted =
        (SignedDelegation.ofValue another).map SignedDelegation.redacted)
      (keys : source.Alike S other) :
      Alike S (.addProxy delegation source) (.addProxy another other)
  | request (request other : Request) (requests : request.Alike S other) :
      Alike S (.request request) (.request other)
  | gather (requests others : List Request)
      (alike : List.Forall₂ (Request.Alike S) requests others) :
      Alike S (.gather requests) (.gather others)
  | hasConsensus (pubkey : Value) : Alike S (.hasConsensus pubkey) (.hasConsensus pubkey)
  | hasProxy (pubkey : Value) : Alike S (.hasProxy pubkey) (.hasProxy pubkey)
  | getDelegation (pubkey : Value) : Alike S (.getDelegation pubkey) (.getDelegation pubkey)
  | consensusKeys : Alike S .consensusKeys .consensusKeys
  | proxyKeys : Alike S .proxyKeys .proxyKeys
  | delegations : Alike S .delegations .delegations
  | chain : Alike S .chain .chain
  | setupLogging (level : Log.LevelChoice) (format : Log.Format) :
      Alike S (.setupLogging level format) (.setupLogging level format)
  | applyConfig (config : Value) : Alike S (.applyConfig config) (.applyConfig config)
  | enterScope (tags : Scope.Tags) : Alike S (.enterScope tags) (.enterScope tags)
  | leaveScope (raising : Bool) : Alike S (.leaveScope raising) (.leaveScope raising)
  | showScope : Alike S .showScope .showScope
  | log (logger : Text) (level : Int) (template : Text) (arguments : List Value)
      (failure : Option Log.Failure) :
      Alike S (.log logger level template arguments failure)
        (.log logger level template arguments failure)

def Session.Step.Alike (S : Scheme) (step other : Session.Step) : Prop :=
  step.time = other.time ∧ step.command.Alike S other.command

namespace Session

-- A session and its response, without what they hide.
def seen (stepped : Session × Response) : SessionView × Response :=
  (stepped.1.view, stepped.2.redacted)

theorem view_eq_iff (a b : Session) :
    a.view = b.view ↔ a.registry.view = b.registry.view ∧ a.scopes = b.scopes ∧ a.sink = b.sink ∧
      a.time = b.time := by
  rw [view, view, SessionView.mk.injEq]

theorem report_seen (a b : Session) (same : a.view = b.view) (events : List Event) :
    a.report events = b.report events := by
  obtain ⟨_, _, sink, time⟩ := (view_eq_iff a b).mp same
  simp only [report, eventEntry, sink, time]

theorem scope_seen (a b : Session) (same : a.view = b.view) : a.scope = b.scope := by
  obtain ⟨_, scopes, _⟩ := (view_eq_iff a b).mp same
  rw [scope, scope, scopes]

theorem registry_seen (a b : Session) (same : a.view = b.view) :
    a.registry.view = b.registry.view :=
  ((view_eq_iff a b).mp same).1

theorem answer_seen {α : Type} (hide : α → α) (reply : α → Reply) (answer other : Except Fault α)
    (hides : ∀ value, (reply value).redacted = (reply (hide value)).redacted)
    (answers : answer.map hide = other.map hide) :
    (answer.map reply).map Reply.redacted = (other.map reply).map Reply.redacted := by
  have through (a : Except Fault α) :
      (a.map reply).map Reply.redacted = ((a.map hide).map reply).map Reply.redacted := by
    cases a with
    | error fault => rfl
    | ok value => exact congrArg Except.ok (hides value)
  rw [through answer, through other, answers]

theorem settle_seen {α : Type} (hide : α → α) (reply : α → Reply) (a b : Session)
    (same : a.view = b.view) (outcome other : Outcome α)
    (hides : ∀ value, (reply value).redacted = (reply (hide value)).redacted)
    (outcomes : outcome.seen hide = other.seen hide) :
    seen (a.settle outcome reply) = seen (b.settle other reply) := by
  obtain ⟨_, scopes, sink, time⟩ := (view_eq_iff a b).mp same
  obtain ⟨answers, rest⟩ := Prod.mk.inj outcomes
  obtain ⟨events, views⟩ := Prod.mk.inj rest
  simp only [seen, settle, view, Response.redacted, answer_seen hide reply _ _ hides answers, views,
    events, report_seen a b same, sink, time, scopes]

theorem tell_seen {α : Type} (hide : α → α) (reply : α → Reply) (a b : Session)
    (same : a.view = b.view) (answer other : Except Fault α)
    (hides : ∀ value, (reply value).redacted = (reply (hide value)).redacted)
    (answers : answer.map hide = other.map hide) :
    seen (a.tell answer reply) = seen (b.tell other reply) := by
  simp only [seen, tell, Response.redacted, answer_seen hide reply _ _ hides answers, same]

theorem hides_nothing {α : Type} (reply : α → Reply) (value : α) :
    (reply value).redacted = (reply (id value)).redacted :=
  rfl

theorem hides_signature (signature : Bytes) :
    (Reply.bytes signature).redacted = (Reply.bytes (hidden signature)).redacted := by
  rw [Reply.redacted, Reply.redacted, hidden_hidden]

theorem hides_delegation (d : SignedDelegation) :
    (Reply.delegation d).redacted = (Reply.delegation d.redacted).redacted := by
  rw [Reply.redacted, Reply.redacted, redacted_redacted]

theorem hides_delegations (list : List SignedDelegation) :
    (Reply.delegations list).redacted =
      (Reply.delegations (list.map SignedDelegation.redacted)).redacted := by
  rw [Reply.redacted, Reply.redacted, List.map_map]
  exact congrArg Reply.delegations
    (List.map_congr_left fun d _ => (redacted_redacted d).symm)

variable {S : Scheme}

/-! ## One command -/

theorem sources_seen (source other : KeySource) (keys : source.Alike S other) :
    (∃ fault, source.signer S = .error fault ∧ other.signer S = .error fault) ∨
      ∃ signer another, source.signer S = .ok signer ∧ other.signer S = .ok another ∧
        signer.pubkey = another.pubkey := by
  rw [KeySource.Alike] at keys
  cases made : source.signer S with
  | error fault =>
      rw [made] at keys
      exact Or.inl ⟨fault, rfl, (map_error_iff _ _ fault).mp keys.symm⟩
  | ok signer =>
      rw [made] at keys
      obtain ⟨another, otherMade, same⟩ := (map_ok_iff _ _ _).mp keys.symm
      exact Or.inr ⟨signer, another, rfl, otherMade, same.symm⟩

theorem add_consensus_seen (a b : Session) (same : a.view = b.view) (source other : KeySource)
    (keys : source.Alike S other) :
    seen (a.addConsensus S source) = seen (b.addConsensus S other) := by
  rw [addConsensus, addConsensus, scope_seen a b same]
  rcases sources_seen source other keys with
    ⟨fault, made, otherMade⟩ | ⟨signer, another, made, otherMade, pubkeys⟩
  · rw [made, otherMade]
    exact tell_seen id _ a b same _ _ (hides_nothing _) rfl
  · rw [made, otherMade]
    exact settle_seen id _ a b same _ _ (hides_nothing _)
      (Registry.add_consensus_seen _ _ (registry_seen a b same) _ signer another pubkeys)

theorem proxies_seen (source other : KeySource) (d another : SignedDelegation)
    (keys : source.Alike S other) (delegations : d.redacted = another.redacted) :
    (∃ fault, source.proxy S d = .error fault ∧ other.proxy S another = .error fault) ∨
      ∃ proxy otherProxy, source.proxy S d = .ok proxy ∧ other.proxy S another = .ok otherProxy ∧
        proxy.pubkey = otherProxy.pubkey ∧
        proxy.delegation.redacted = otherProxy.delegation.redacted := by
  have messages : d.message = another.message := congrArg (fun d => d.message) delegations
  rcases sources_seen source other keys with
    ⟨fault, made, otherMade⟩ | ⟨signer, otherSigner, made, otherMade, pubkeys⟩
  · rw [KeySource.proxy, KeySource.proxy, made, otherMade]
    exact Or.inl ⟨fault, rfl, rfl⟩
  · rw [KeySource.proxy, KeySource.proxy, made, otherMade]
    simp only [bind, Except.bind, ProxySigner.make, messages, pubkeys]
    by_cases different : another.message.proxy ≠ otherSigner.pubkey
    · rw [if_pos different, if_pos different]
      exact Or.inl ⟨.proxyMismatch, rfl, rfl⟩
    · rw [if_neg different, if_neg different]
      exact Or.inr ⟨_, _, rfl, rfl, pubkeys, delegations⟩

theorem add_proxy_seen (a b : Session) (same : a.view = b.view) (delegation another : Value)
    (source other : KeySource)
    (delegations : (SignedDelegation.ofValue delegation).map SignedDelegation.redacted =
      (SignedDelegation.ofValue another).map SignedDelegation.redacted)
    (keys : source.Alike S other) :
    seen (a.addProxy S delegation source) = seen (b.addProxy S another other) := by
  rw [addProxy, addProxy, scope_seen a b same]
  cases read : SignedDelegation.ofValue delegation with
  | error fault =>
      rw [read] at delegations
      rw [(map_error_iff _ _ fault).mp delegations.symm]
      exact tell_seen id _ a b same _ _ (hides_nothing _) rfl
  | ok d =>
      rw [read] at delegations
      obtain ⟨otherD, otherRead, redacted⟩ := (map_ok_iff _ _ _).mp delegations.symm
      rw [otherRead]
      simp only [bind, Except.bind]
      rcases proxies_seen source other d otherD keys redacted.symm with
        ⟨fault, made, otherMade⟩ | ⟨proxy, otherProxy, made, otherMade, pubkeys, stored⟩
      · rw [made, otherMade]
        exact tell_seen id _ a b same _ _ (hides_nothing _) rfl
      · rw [made, otherMade]
        exact settle_seen id _ a b same _ _ (hides_nothing _)
          (Registry.add_proxy_seen _ _ (registry_seen a b same) _ proxy otherProxy pubkeys stored)

theorem serve_seen (keyed : S.Keyed) (signing : S.Signing) (a b : Session)
    (aConsistent : a.registry.Consistent S) (bConsistent : b.registry.Consistent S)
    (same : a.view = b.view) (request other : Request) (alike : request.Alike S other) :
    seen (a.serve S request) = seen (b.serve S other) := by
  cases alike with
  | createProxy entropy other delegator keys =>
      obtain ⟨signer, made⟩ := Signer.of_entropy_exists keyed signing entropy
      obtain ⟨another, otherMade⟩ := Signer.of_entropy_exists keyed signing other
      have pubkeys : signer.pubkey = another.pubkey := by
        rw [KeySource.Alike, KeySource.signer, KeySource.signer, made, otherMade] at keys
        exact Except.ok.inj keys
      rw [serve, serve, scope_seen a b same]
      exact settle_seen _ _ a b same _ _ hides_delegation
        (Registry.create_proxy_seen keyed signing _ _ aConsistent bConsistent
          (registry_seen a b same) _ entropy other delegator signer another made otherMade pubkeys)
  | sign role pubkey message =>
      rw [serve, serve, scope_seen a b same]
      exact settle_seen _ _ a b same _ _ hides_signature
        (Registry.sign_seen keyed signing _ _ aConsistent bConsistent (registry_seen a b same) _
          role pubkey message)

theorem serve_all_seen (keyed : S.Keyed) (signing : S.Signing) (a b : Session)
    (aConsistent : a.registry.Consistent S) (bConsistent : b.registry.Consistent S)
    (same : a.view = b.view) (requests others : List Request)
    (alike : List.Forall₂ (Request.Alike S) requests others) :
    (a.serveAll S requests).1.view = (b.serveAll S others).1.view ∧
      (a.serveAll S requests).2.map Response.redacted =
        (b.serveAll S others).2.map Response.redacted := by
  induction alike generalizing a b with
  | nil => exact ⟨same, rfl⟩
  | cons first _ ih =>
      obtain ⟨views, responses⟩ := Prod.mk.inj
        (serve_seen keyed signing a b aConsistent bConsistent same _ _ first)
      obtain ⟨laterViews, laterResponses⟩ := ih _ _ (serve_consistent a aConsistent _)
        (serve_consistent b bConsistent _) views
      refine ⟨laterViews, ?_⟩
      simp only [serveAll, List.map_cons, responses, laterResponses]

theorem setup_logging_seen (a b : Session) (same : a.view = b.view) (level : Log.LevelChoice)
    (format : Log.Format) :
    seen (a.setupLogging level format) = seen (b.setupLogging level format) := by
  obtain ⟨registry, scopes, sink, time⟩ := (view_eq_iff a b).mp same
  simp only [seen, setupLogging, view, registry, sink, time, scopes]

theorem enter_scope_seen (a b : Session) (same : a.view = b.view) (tags : Scope.Tags) :
    seen (a.enterScope tags) = seen (b.enterScope tags) := by
  rw [enterScope, enterScope, scope_seen a b same]
  cases Scope.ofTags tags with
  | error fault => exact tell_seen id _ a b same _ _ (hides_nothing _) rfl
  | ok inner =>
      obtain ⟨registry, scopes, sink, time⟩ := (view_eq_iff a b).mp same
      simp only [seen, view, registry, sink, time, scopes]

theorem leave_scope_seen (a b : Session) (same : a.view = b.view) (raising : Bool) :
    seen (a.leaveScope raising) = seen (b.leaveScope raising) := by
  obtain ⟨registry, scopes, sink, time⟩ := (view_eq_iff a b).mp same
  simp only [seen, leaveScope, view, registry, sink, time, scopes]

theorem log_seen (a b : Session) (same : a.view = b.view) (logger : Text) (level : Int)
    (template : Text) (arguments : List Value) (failure : Option Log.Failure) :
    seen (a.log logger level template arguments failure) =
      seen (b.log logger level template arguments failure) := by
  obtain ⟨_, _, sink, time⟩ := (view_eq_iff a b).mp same
  simp only [seen, log, same, scope_seen a b same, sink, time]

theorem gather_seen (keyed : S.Keyed) (signing : S.Signing) (a b : Session)
    (aConsistent : a.registry.Consistent S) (bConsistent : b.registry.Consistent S)
    (same : a.view = b.view) (requests others : List Request)
    (alike : List.Forall₂ (Request.Alike S) requests others) :
    seen (a.perform S (.gather requests)) = seen (b.perform S (.gather others)) := by
  obtain ⟨views, responses⟩ := serve_all_seen keyed signing a b aConsistent bConsistent same
    requests others alike
  have answers : redactedReplies ((a.serveAll S requests).2.map (·.answer)) =
      redactedReplies ((b.serveAll S others).2.map (·.answer)) := by
    rw [redacted_replies, redacted_replies, List.map_map, List.map_map]
    have told := congrArg (List.map fun response => response.answer) responses
    rw [List.map_map, List.map_map] at told
    exact told
  have outputs : (a.serveAll S requests).2.flatMap (·.output) =
      (b.serveAll S others).2.flatMap (·.output) := by
    have told := congrArg (List.flatMap fun response => response.output) responses
    rw [List.flatMap_map, List.flatMap_map] at told
    exact told
  simp only [seen, perform, views, Response.redacted, Except.map, Reply.redacted, answers, outputs]

theorem perform_seen (keyed : S.Keyed) (signing : S.Signing) (a b : Session)
    (aConsistent : a.registry.Consistent S) (bConsistent : b.registry.Consistent S)
    (same : a.view = b.view) (command other : Command) (alike : command.Alike S other) :
    seen (a.perform S command) = seen (b.perform S other) := by
  have registry := registry_seen a b same
  cases alike with
  | addConsensus source other keys => exact add_consensus_seen a b same source other keys
  | addProxy delegation another source other delegations keys =>
      exact add_proxy_seen a b same delegation another source other delegations keys
  | request request other requests =>
      exact serve_seen keyed signing a b aConsistent bConsistent same request other requests
  | gather requests others alike =>
      exact gather_seen keyed signing a b aConsistent bConsistent same requests others alike
  | hasConsensus pubkey =>
      exact tell_seen id _ a b same _ _ (hides_nothing _)
        (congrArg _ (Registry.has_consensus_seen _ _ registry pubkey))
  | hasProxy pubkey =>
      exact tell_seen id _ a b same _ _ (hides_nothing _)
        (congrArg _ (Registry.has_proxy_seen _ _ registry pubkey))
  | getDelegation pubkey =>
      exact tell_seen _ _ a b same _ _ hides_delegation
        (Registry.get_delegation_seen _ _ registry pubkey)
  | consensusKeys =>
      exact tell_seen id _ a b same _ _ (hides_nothing _)
        (congrArg (fun keys => Except.ok keys) (Registry.held_keys_seen _ _ registry .consensus))
  | proxyKeys =>
      exact tell_seen id _ a b same _ _ (hides_nothing _)
        (congrArg (fun keys => Except.ok keys) (Registry.held_keys_seen _ _ registry .proxy))
  | delegations =>
      exact tell_seen _ _ a b same _ _ hides_delegations
        (congrArg Except.ok (Registry.delegations_seen _ _ registry))
  | chain =>
      exact tell_seen id _ a b same _ _ (hides_nothing _)
        (congrArg (fun view : RegistryView => Except.ok view.chain) registry)
  | setupLogging level format => exact setup_logging_seen a b same level format
  | applyConfig config =>
      rw [perform, perform]
      cases LoggingConfig.ofValue config with
      | error fault => exact tell_seen id _ a b same _ _ (hides_nothing _) rfl
      | ok config => exact setup_logging_seen a b same _ _
  | enterScope tags => exact enter_scope_seen a b same tags
  | leaveScope raising => exact leave_scope_seen a b same raising
  | showScope =>
      exact tell_seen id _ a b same _ _ (hides_nothing _)
        (congrArg (fun scope => Except.ok scope) (scope_seen a b same))
  | log logger level template arguments failure =>
      exact log_seen a b same logger level template arguments failure

/-! ## Whole runs -/

theorem advance_seen (keyed : S.Keyed) (signing : S.Signing) (a b : Session)
    (aConsistent : a.registry.Consistent S) (bConsistent : b.registry.Consistent S)
    (same : a.view = b.view) (step other : Step) (alike : step.Alike S other) :
    seen (a.advance S step) = seen (b.advance S other) := by
  obtain ⟨time, command⟩ := step
  obtain ⟨otherTime, otherCommand⟩ := other
  obtain ⟨times, commands⟩ := alike
  cases times
  cases time with
  | none => exact perform_seen keyed signing a b aConsistent bConsistent same _ _ commands
  | some time =>
      have set : (a.atTime time).view = (b.atTime time).view :=
        congrArg (fun view => { view with time := time }) same
      exact perform_seen keyed signing (a.atTime time) (b.atTime time) aConsistent bConsistent set
        _ _ commands

theorem run_seen (keyed : S.Keyed) (signing : S.Signing) (a b : Session)
    (aConsistent : a.registry.Consistent S) (bConsistent : b.registry.Consistent S)
    (same : a.view = b.view) (first second : List Step)
    (alike : List.Forall₂ (Step.Alike S) first second) :
    (a.run S first).1.view = (b.run S second).1.view ∧
      (a.run S first).2.map Response.redacted = (b.run S second).2.map Response.redacted := by
  induction alike generalizing a b with
  | nil => exact ⟨same, rfl⟩
  | @cons step other _ _ head _ ih =>
      obtain ⟨views, responses⟩ := Prod.mk.inj
        (advance_seen keyed signing a b aConsistent bConsistent same step other head)
      obtain ⟨laterViews, laterResponses⟩ := ih _ _ (advance_consistent a aConsistent step)
        (advance_consistent b bConsistent other) views
      refine ⟨laterViews, ?_⟩
      simp only [run, List.map_cons, responses, laterResponses]

theorem made_describe (source : KeySource) (signer : Signer) (made : source.signer S = .ok signer) :
    signer.describe = "Signer(PlainBackend, pubkey=" ++ Hex.abbreviate signer.pubkey ++ ")" ∧
      signer.backend.describe = "PlainBackend()" := by
  obtain ⟨secret, plain, _⟩ := source.signer_made S signer made
  rw [Signer.describe, plain]
  exact ⟨rfl, rfl⟩

theorem secrets_only_sign (keyed : S.Keyed) (signing : S.Signing) (chain : Chain)
    (first second : List Step) (alike : List.Forall₂ (Step.Alike S) first second) :
    ((start chain).run S first).2.map Response.redacted =
        ((start chain).run S second).2.map Response.redacted ∧
      (∀ count, ((start chain).run S (first.take count)).1.view =
        ((start chain).run S (second.take count)).1.view) ∧
      ∀ (source other : KeySource) (signer another : Signer), source.signer S = .ok signer →
        other.signer S = .ok another → signer.pubkey = another.pubkey →
        signer.describe = another.describe ∧
          signer.backend.describe = another.backend.describe := by
  have consistent := Registry.empty_consistent (S := S) chain
  refine ⟨?_, fun count => ?_, fun source other signer another made otherMade keys => ?_⟩
  · exact (run_seen keyed signing _ _ consistent consistent rfl first second alike).2
  · exact (run_seen keyed signing _ _ consistent consistent rfl _ _
      (List.forall₂_take count alike)).1
  · obtain ⟨shown, backend⟩ := made_describe source signer made
    obtain ⟨otherShown, otherBackend⟩ := made_describe other another otherMade
    rw [shown, backend, otherShown, otherBackend, keys]
    exact ⟨rfl, rfl⟩

-- A scheme in which two secrets share each public key and a signature tells the secret.
def twinKey (secret : Int) : Bytes := Bytes.bigEndian pubkeyLength (secret.toNat % 2)

def twinScheme : Scheme where
  order := 4
  generate entropy := if entropy = Bytes.zeros 32 then 1 else 3
  derive secret := if 0 < secret ∧ secret < 4 then some (twinKey secret) else none
  sign secret root :=
    if 0 < secret ∧ secret < 4 then
      some (Bytes.bigEndian signatureLength (secret.toNat + root.length))
    else none
  verify _ _ _ := true

theorem twin_keyed : twinScheme.Keyed where
  derive_isSome _ := Recorded.guarded_is_some_iff _ _
  length_derive secret key derived := by
    obtain ⟨_, told⟩ := Option.ite_none_right_eq_some.mp derived
    cases told
    exact Bytes.length_big_endian _ _

theorem twin_signing : twinScheme.Signing where
  generate_pos entropy := by
    change 0 < if entropy = Bytes.zeros 32 then 1 else 3
    split <;> decide
  generate_lt entropy := by
    change (if entropy = Bytes.zeros 32 then 1 else 3) < 4
    split <;> decide
  sign_isSome _ _ := Recorded.guarded_is_some_iff _ _
  length_sign secret root signature signed := by
    obtain ⟨_, told⟩ := Option.ite_none_right_eq_some.mp signed
    cases told
    exact Bytes.length_big_endian _ _

-- Logging goes on, a holder is registered, and it signs the delegation of a new key.
def twinRun (holder : KeySource) (entropy : Bytes) : List Step :=
  [⟨some 0, .setupLogging (.number Registry.debug) .json⟩, ⟨none, .addConsensus holder⟩,
    ⟨none, .request (.createProxy entropy (.bytes (twinKey 1)))⟩,
    ⟨none, .request (.sign .proxy (.bytes (twinKey 1)) (.root (Bytes.zeros 32)))⟩]

def firstTwin : List Step := twinRun (.backend (.plain 1)) (Bytes.zeros 32)

def secondTwin : List Step := twinRun (.secret (Bytes.bigEndian 32 3)) (Bytes.bigEndian 32 1)

theorem twin_runs_alike : List.Forall₂ (Step.Alike twinScheme) firstTwin secondTwin := by
  have keyed (source : KeySource)
      (derived : ((source.signer twinScheme).map (·.pubkey)).toOption = some (twinKey 1)) :
      (source.signer twinScheme).map (·.pubkey) = .ok (twinKey 1) :=
    ok_of_to_option _ _ derived
  have holders : (KeySource.backend (.plain 1)).Alike twinScheme (.secret (Bytes.bigEndian 32 3)) :=
    (keyed _ (by decide +kernel)).trans (keyed _ (by decide +kernel)).symm
  have minted : (KeySource.entropy (Bytes.zeros 32)).Alike twinScheme
      (.entropy (Bytes.bigEndian 32 1)) :=
    (keyed _ (by decide +kernel)).trans (keyed _ (by decide +kernel)).symm
  refine .cons ⟨rfl, .setupLogging _ _⟩ (.cons ⟨rfl, .addConsensus _ _ holders⟩
    (.cons ⟨rfl, .request _ _ (.createProxy _ _ _ minted)⟩
      (.cons ⟨rfl, .request _ _ (.sign _ _ _)⟩ .nil)))

theorem twin_secrets_only_sign :
    (((start .mainnet).run twinScheme firstTwin).1.registry.delegations ≠
      ((start .mainnet).run twinScheme secondTwin).1.registry.delegations) ∧
    ((start .mainnet).run twinScheme firstTwin).2.map Response.redacted =
      ((start .mainnet).run twinScheme secondTwin).2.map Response.redacted :=
  ⟨by decide +kernel,
    (secrets_only_sign twin_keyed twin_signing .mainnet _ _ twin_runs_alike).1⟩

end Session

end KeyCustody
