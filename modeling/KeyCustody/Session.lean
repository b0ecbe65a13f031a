import KeyCustody.Config.Settings
import KeyCustody.Log.Sink
import KeyCustody.Registry

/-! A registry in use, with open scopes, a log sink and a clock. -/

set_option autoImplicit false

namespace KeyCustody

inductive Request where
  | createProxy (entropy : Bytes) (delegator : Value)
  | sign (role : Role) (pubkey : Value) (message : Message)

inductive Command where
  | addConsensus (source : KeySource)
  | addProxy (delegation : Value) (source : KeySource)
  | request (request : Request)
  | gather (requests : List Request)
  | hasConsensus (pubkey : Value)
  | hasProxy (pubkey : Value)
  | getDelegation (pubkey : Value)
  | consensusKeys
  | proxyKeys
  | delegations
  | chain
  | setupLogging (level : Log.LevelChoice) (format : Log.Format)
  | applyConfig (config : Value)
  | enterScope (tags : Scope.Tags)
  | leaveScope (raising : Bool)
  | showScope
  | log (logger : Text) (level : Int) (template : Text) (arguments : List Value)
    (failure : Option Log.Failure)

inductive Reply where
  | nothing
  | bytes (b : Bytes)
  | truth (b : Bool)
  | chain (chain : Chain)
  | keys (keys : List Bytes)
  | delegation (d : SignedDelegation)
  | delegations (list : List SignedDelegation)
  | opened (scope : Scope)
  | closed (suppressed : Bool)
  | tagged (scope : Scope)
  | batch (replies : List (Except Fault Reply))

structure Session where
  registry : Registry
  scopes : List Scope
  sink : Log.Sink
  time : Log.Instant

structure Response where
  answer : Except Fault Reply
  output : Text

namespace Session

def start (chain : Chain) : Session := ⟨Registry.empty chain, [], .initial, 0⟩

def ofSettings (settings : Settings) : Session := start settings.chain

def scope (session : Session) : Scope := session.scopes.headD .empty

def registryLogger : Text := "cbsigner.core.manager"

-- The logger that has no name of its own stands at the root of all others.
def loggerName (name : Text) : Text := if name.isEmpty then "root" else name

def eventEntry (session : Session) (event : Event) : Log.Entry :=
  ⟨session.time, event.level, registryLogger, event.message, event.scope, none⟩

def report (session : Session) (events : List Event) : Text :=
  events.flatMap fun event => session.sink.write (session.eventEntry event)

def settle {α : Type} (session : Session) (outcome : Outcome α) (reply : α → Reply) :
    Session × Response :=
  ({ session with registry := outcome.registry },
    ⟨outcome.answer.map reply, session.report outcome.events⟩)

def tell {α : Type} (session : Session) (answer : Except Fault α) (reply : α → Reply) :
    Session × Response :=
  (session, ⟨answer.map reply, []⟩)

variable (S : Scheme)

def serve (session : Session) (request : Request) : Session × Response :=
  match request with
  | .createProxy entropy delegator =>
    session.settle (session.registry.createProxy S session.scope entropy delegator) .delegation
  | .sign role pubkey message =>
    session.settle (session.registry.sign S session.scope role pubkey message) .bytes

def serveAll : Session → List Request → Session × List Response
  | session, [] => (session, [])
  | session, request :: rest =>
    let (session, response) := session.serve S request
    let (session, responses) := serveAll session rest
    (session, response :: responses)

def addConsensus (session : Session) (source : KeySource) : Session × Response :=
  match source.signer S with
  | .error fault => session.tell (.error fault) fun () => .nothing
  | .ok signer =>
    session.settle (session.registry.addConsensus session.scope signer) fun () => .nothing

def addProxy (session : Session) (delegation : Value) (source : KeySource) :
    Session × Response :=
  let made := do
    let delegation ← SignedDelegation.ofValue delegation
    source.proxy S delegation
  match made with
  | .error fault => session.tell (.error fault) fun () => .nothing
  | .ok proxy => session.settle (session.registry.addProxy session.scope proxy) fun () => .nothing

def setupLogging (session : Session) (level : Log.LevelChoice) (format : Log.Format) :
    Session × Response :=
  let (sink, answer) := session.sink.setup level format
  ({ session with sink := sink }, ⟨answer.map fun () => .nothing, []⟩)

def formatOf (json : Bool) : Log.Format := if json then .json else .text

def setupWith (session : Session) (level json : Value) : Session × Response :=
  let (sink, answer) := session.sink.setupWith level (formatOf (!json.isVoid))
  ({ session with sink := sink }, ⟨answer.map fun () => .nothing, []⟩)

def applyConfig (session : Session) (config : LoggingConfig) : Session × Response :=
  session.setupLogging (.named config.level) (formatOf config.jsonOutput)

def enterScope (session : Session) (tags : Scope.Tags) : Session × Response :=
  match Scope.ofTags tags with
  | .error fault => session.tell (.error fault) fun () => .nothing
  | .ok inner =>
    let scope := session.scope.within inner
    ({ session with scopes := scope :: session.scopes }, ⟨.ok (.opened scope), []⟩)

def leaveScope (session : Session) (raising : Bool) : Session × Response :=
  ({ session with scopes := session.scopes.tail },
    ⟨.ok (if raising then .closed false else .nothing), []⟩)

def log (session : Session) (logger : Text) (level : Int) (template : Text)
    (arguments : List Value) (failure : Option Log.Failure) : Session × Response :=
  let output := match Log.format? template arguments with
    | some message =>
      session.sink.write
        ⟨session.time, level, loggerName logger, message, session.scope, failure⟩
    | none => []
  (session, ⟨.ok .nothing, output⟩)

def perform (session : Session) (command : Command) : Session × Response :=
  match command with
  | .addConsensus source => session.addConsensus S source
  | .addProxy delegation source => session.addProxy S delegation source
  | .request request => session.serve S request
  | .gather requests =>
    let (session, responses) := session.serveAll S requests
    (session, ⟨.ok (.batch (responses.map (·.answer))), responses.flatMap (·.output)⟩)
  | .hasConsensus pubkey => session.tell (session.registry.hasConsensus pubkey) .truth
  | .hasProxy pubkey => session.tell (session.registry.hasProxy pubkey) .truth
  | .getDelegation pubkey => session.tell (session.registry.getDelegation pubkey) .delegation
  | .consensusKeys => session.tell (.ok session.registry.consensus.keys) .keys
  | .proxyKeys => session.tell (.ok session.registry.proxies.keys) .keys
  | .delegations => session.tell (.ok session.registry.delegations) .delegations
  | .chain => session.tell (.ok session.registry.chain) .chain
  | .setupLogging level format => session.setupLogging level format
  | .applyConfig config =>
    match LoggingConfig.ofValue config with
    | .error fault => session.tell (.error fault) fun () => .nothing
    | .ok config => session.applyConfig config
  | .enterScope tags => session.enterScope tags
  | .leaveScope raising => session.leaveScope raising
  | .showScope => session.tell (.ok session.scope) .tagged
  | .log logger level template arguments failure =>
    session.log logger level template arguments failure

def atTime (session : Session) (time : Log.Instant) : Session := { session with time := time }

structure Step where
  time : Option Log.Instant
  command : Command

def advance (session : Session) (step : Step) : Session × Response :=
  (match step.time with
    | some time => session.atTime time
    | none => session).perform S step.command

def run : Session → List Step → Session × List Response
  | session, [] => (session, [])
  | session, step :: rest =>
    let (session, response) := session.advance S step
    let (session, responses) := run session rest
    (session, response :: responses)

end Session

end KeyCustody
