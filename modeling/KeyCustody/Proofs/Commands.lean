import KeyCustody.Session

/-!
What the commands of a session do to it, and the records they make, in order and each in the scope
that is active where it is made. What a command puts out is what the sink writes of its records.
-/

set_option autoImplicit false

namespace KeyCustody

-- The commands that open and close scopes.
def Command.isScoping : Command → Bool
  | .enterScope _ | .leaveScope _ => true
  | _ => false

-- The setup that a command asks for. A section that fails its checks asks for none.
def Command.setup? : Command → Option (Log.LevelChoice × Log.Format)
  | .setupLogging choice format => some (choice, format)
  | .applyConfig value =>
    (LoggingConfig.ofValue value).toOption.map fun config =>
      (.named config.level, Session.formatOf config.jsonOutput)
  | _ => none

namespace Session

variable (S : Scheme)

/-! ## Sessions after a command -/

-- The session in which the command of a step runs.
def timed (session : Session) (step : Step) : Session :=
  match step.time with
  | some time => session.atTime time
  | none => session

theorem advance_timed (session : Session) (step : Step) :
    session.advance S step = (session.timed step).perform S step.command := rfl

theorem serve_changes (session : Session) (request : Request) :
    ∃ registry, (session.serve S request).1 = { session with registry := registry } := by
  cases request <;> exact ⟨_, rfl⟩

theorem serve_all_changes (session : Session) (requests : List Request) :
    ∃ registry, (session.serveAll S requests).1 = { session with registry := registry } := by
  induction requests generalizing session with
  | nil => exact ⟨session.registry, rfl⟩
  | cons request rest ih =>
      obtain ⟨first, served⟩ := serve_changes S session request
      obtain ⟨last, followed⟩ := ih (session.serve S request).1
      refine ⟨last, followed.trans ?_⟩
      rw [served]

theorem perform_setup (session : Session) (command : Command) (choice : Log.LevelChoice)
    (format : Log.Format) (asked : command.setup? = some (choice, format)) :
    session.perform S command = session.setupLogging choice format := by
  cases command with
  | setupLogging choice format =>
      cases asked
      rfl
  | applyConfig value =>
      rw [Command.setup?] at asked
      rw [perform]
      cases read : LoggingConfig.ofValue value with
      | error fault =>
          rw [read] at asked
          cases asked
      | ok config =>
          rw [read] at asked
          cases asked
          rfl
  | _ => cases asked

-- Apart from scopes and setups, commands change nothing but the registry.
theorem perform_changes (session : Session) (command : Command) :
    (∃ registry, (session.perform S command).1 = { session with registry := registry }) ∨
    (command.isScoping = true ∧
      ∃ scopes, (session.perform S command).1 = { session with scopes := scopes }) ∨
    ∃ choice format, command.setup? = some (choice, format) ∧
      session.perform S command = session.setupLogging choice format := by
  cases command with
  | addConsensus source =>
      rw [perform, addConsensus]
      cases source.signer S <;> exact Or.inl ⟨_, rfl⟩
  | addProxy delegation source =>
      rw [perform, addProxy]
      split <;> exact Or.inl ⟨_, rfl⟩
  | request request => exact Or.inl (serve_changes S session request)
  | gather requests => exact Or.inl (serve_all_changes S session requests)
  | setupLogging choice format => exact Or.inr (Or.inr ⟨choice, format, rfl, rfl⟩)
  | applyConfig value =>
      cases read : LoggingConfig.ofValue value with
      | error fault =>
          rw [perform, read]
          exact Or.inl ⟨_, rfl⟩
      | ok config =>
          have asked : (Command.applyConfig value).setup? =
              some (.named config.level, formatOf config.jsonOutput) := by
            rw [Command.setup?, read]
            rfl
          exact Or.inr (Or.inr ⟨_, _, asked, perform_setup S session _ _ _ asked⟩)
  | enterScope tags =>
      rw [perform, enterScope]
      cases Scope.ofTags tags with
      | error fault => exact Or.inl ⟨_, rfl⟩
      | ok inner => exact Or.inr (Or.inl ⟨rfl, _, rfl⟩)
  | leaveScope raising => exact Or.inr (Or.inl ⟨rfl, _, rfl⟩)
  | _ => exact Or.inl ⟨session.registry, rfl⟩

/-! ## Records -/

def reported (session : Session) (events : List Event) : List Log.Entry :=
  events.map session.eventEntry

-- A template that does not fit has no text, and so no record.
def logged (session : Session) (logger : Text) (level : Int) (template : Text)
    (arguments : List Value) (failure : Option Log.Failure) : List Log.Entry :=
  match Log.format? template arguments with
  | some message =>
    [⟨session.time, level, loggerName logger, message, session.scope, failure⟩]
  | none => []

def requestRecords (session : Session) : Request → List Log.Entry
  | .createProxy entropy delegator =>
    session.reported (session.registry.createProxy S session.scope entropy delegator).events
  | .sign role pubkey message =>
    session.reported (session.registry.sign S session.scope role pubkey message).events

def batchRecords : Session → List Request → List Log.Entry
  | _, [] => []
  | session, request :: rest =>
    session.requestRecords S request ++ batchRecords (session.serve S request).1 rest

def records (session : Session) : Command → List Log.Entry
  | .addConsensus source =>
    match source.signer S with
    | .error _ => []
    | .ok signer => session.reported (session.registry.addConsensus session.scope signer).events
  | .addProxy delegation source =>
    match SignedDelegation.ofValue delegation >>= source.proxy S with
    | .error _ => []
    | .ok proxy => session.reported (session.registry.addProxy session.scope proxy).events
  | .request request => session.requestRecords S request
  | .gather requests => session.batchRecords S requests
  | .log logger level template arguments failure =>
    session.logged logger level template arguments failure
  | _ => []

theorem report_records (session : Session) (events : List Event) :
    session.report events = (session.reported events).flatMap session.sink.write := by
  rw [report, reported, List.flatMap_map]

theorem serve_output (session : Session) (request : Request) :
    (session.serve S request).2.output =
      (session.requestRecords S request).flatMap session.sink.write := by
  cases request <;> exact report_records session _

theorem serve_all_output (session : Session) (requests : List Request) :
    (session.serveAll S requests).2.flatMap (·.output) =
      (session.batchRecords S requests).flatMap session.sink.write := by
  induction requests generalizing session with
  | nil => rfl
  | cons request rest ih =>
      obtain ⟨registry, served⟩ := serve_changes S session request
      rw [serveAll, batchRecords, List.flatMap_cons, List.flatMap_append, serve_output, ih, served]

theorem log_output (session : Session) (logger : Text) (level : Int) (template : Text)
    (arguments : List Value) (failure : Option Log.Failure) :
    (session.log logger level template arguments failure).2.output =
      (session.logged logger level template arguments failure).flatMap session.sink.write := by
  rw [log, logged]
  cases Log.format? template arguments with
  | none => rfl
  | some message => exact (List.append_nil _).symm

theorem perform_output (session : Session) (command : Command) :
    (session.perform S command).2.output =
      (session.records S command).flatMap session.sink.write := by
  cases command with
  | addConsensus source =>
      rw [perform, addConsensus, records]
      cases source.signer S with
      | error fault => rfl
      | ok signer => exact report_records session _
  | addProxy delegation source =>
      rw [perform, addProxy, records]
      change (match SignedDelegation.ofValue delegation >>= source.proxy S with
        | .error fault => session.tell (.error fault) fun () => Reply.nothing
        | .ok proxy => session.settle (session.registry.addProxy session.scope proxy)
            fun () => Reply.nothing).2.output = _
      cases SignedDelegation.ofValue delegation >>= source.proxy S with
      | error fault => rfl
      | ok proxy => exact report_records session _
  | request request => exact serve_output S session request
  | gather requests => exact serve_all_output S session requests
  | log logger level template arguments failure =>
      exact log_output session logger level template arguments failure
  | applyConfig config =>
      rw [perform]
      cases LoggingConfig.ofValue config <;> rfl
  | enterScope tags =>
      rw [perform, enterScope]
      cases Scope.ofTags tags <;> rfl
  | _ => rfl

end Session

end KeyCustody
