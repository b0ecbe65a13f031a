import KeyCustody.Proofs.Delivery

/-!
What a setup of the log that fails leaves behind. The old handler is gone by then, so the session
goes on as it would have without the call, but for its lines: there are none of them until a setup
succeeds, and from there on all is as without the call. Where there was no handler nothing is lost.
-/

set_option autoImplicit false

namespace KeyCustody

-- The response with nothing written.
def Response.muted (response : Response) : Response := ⟨response.answer, []⟩

namespace Session

variable (S : Scheme)

-- The session without a handler; the level and all else are kept.
def silenced (session : Session) : Session :=
  { session with sink := { session.sink with handler := none } }

theorem silenced_root (session : Session) :
    session.silenced.sink.root = ⟨[], session.sink.root.level⟩ := rfl

theorem silenced_bare (session : Session) (bare : session.sink.handler = none) :
    session.silenced = session := by
  obtain ⟨registry, scopes, ⟨handler, level⟩, time⟩ := session
  cases bare
  rfl

/-! ## Setups -/

-- What a setup leaves, by the level that was read for it.
def setUp (session : Session) (read : Except Fault Int) (format : Log.Format) :
    Session × Response :=
  match read with
  | .ok level => ({ session with sink := ⟨some format, level⟩ }, ⟨.ok .nothing, []⟩)
  | .error fault => (session.silenced, ⟨.error fault, []⟩)

theorem setup_logging_read (session : Session) (choice : Log.LevelChoice) (format : Log.Format) :
    session.setupLogging choice format = session.setUp choice.level format := by
  rw [setupLogging, Log.Sink.setup]
  cases choice.level <;> rfl

theorem setup_with_read (session : Session) (level json : Value) :
    session.setupWith level json =
      session.setUp (Log.LevelChoice.ofValue level >>= Log.LevelChoice.level)
        (formatOf (!json.isVoid)) := by
  rw [setupWith, Log.Sink.setupWith]
  cases Log.LevelChoice.ofValue level with
  | error fault => rfl
  | ok choice => exact setup_logging_read session choice _

-- What a step of a session may be: a command, or a setup from values of any kind, such as a section
-- holds once its attributes were set.
inductive Act where
  | step (step : Step)
  | setup (level json : Value)

namespace Act

-- The level and the format that an act sets up, if it is a setup.
def setup? : Act → Option (Except Fault Int × Log.Format)
  | .step taken => taken.command.setup?.map fun asked => (asked.1.level, asked.2)
  | .setup level json =>
    some (Log.LevelChoice.ofValue level >>= Log.LevelChoice.level, formatOf (!json.isVoid))

def setsUp (act : Act) : Bool :=
  match act.setup? with
  | some (.ok _, _) => true
  | _ => false

def setsClock : Act → Bool
  | .step taken => taken.time.isSome
  | .setup _ _ => false

end Act

def clocked (session : Session) : Act → Session
  | .step step => session.timed step
  | .setup _ _ => session

def act (session : Session) : Act → Session × Response
  | .step step => session.advance S step
  | .setup level json => session.setupWith level json

def play : Session → List Act → Session × List Response
  | session, [] => (session, [])
  | session, first :: rest =>
    let (session, response) := session.act S first
    let (session, responses) := play session rest
    (session, response :: responses)

theorem play_cons (session : Session) (first : Act) (rest : List Act) :
    session.play S (first :: rest) =
      (((session.act S first).1.play S rest).1,
        (session.act S first).2 :: ((session.act S first).1.play S rest).2) := rfl

theorem play_steps (session : Session) (steps : List Step) :
    session.play S (steps.map .step) = session.run S steps := by
  induction steps generalizing session with
  | nil => rfl
  | cons step rest ih =>
      rw [List.map_cons, play_cons, ih]
      rfl

theorem play_append (session : Session) (earlier later : List Act) :
    session.play S (earlier ++ later) =
      (((session.play S earlier).1.play S later).1,
        (session.play S earlier).2 ++ ((session.play S earlier).1.play S later).2) := by
  induction earlier generalizing session with
  | nil => rfl
  | cons first rest ih =>
      rw [List.cons_append, play_cons, play_cons, ih]
      rfl

theorem act_set_up (session : Session) (act : Act) (read : Except Fault Int) (format : Log.Format)
    (asked : act.setup? = some (read, format)) :
    session.act S act = (session.clocked act).setUp read format := by
  cases act with
  | step step =>
      obtain ⟨⟨choice, chosen⟩, told, same⟩ := Option.map_eq_some_iff.mp asked
      cases same
      rw [Session.act, advance_timed, perform_setup S _ _ choice chosen told]
      exact setup_logging_read _ choice chosen
  | setup level json =>
      cases asked
      exact setup_with_read session level json

/-! ## Sessions without a handler -/

theorem serve_silenced (session : Session) (request : Request) :
    (session.silenced.serve S request).1 = (session.serve S request).1.silenced ∧
      (session.silenced.serve S request).2.answer = (session.serve S request).2.answer := by
  cases request <;> exact ⟨rfl, rfl⟩

theorem serve_all_silenced (session : Session) (requests : List Request) :
    (session.silenced.serveAll S requests).1 = (session.serveAll S requests).1.silenced ∧
      (session.silenced.serveAll S requests).2.map (·.answer) =
        (session.serveAll S requests).2.map (·.answer) := by
  induction requests generalizing session with
  | nil => exact ⟨rfl, rfl⟩
  | cons request rest ih =>
      obtain ⟨state, answer⟩ := serve_silenced S session request
      obtain ⟨last, answers⟩ := ih (session.serve S request).1
      rw [serveAll, serveAll]
      dsimp only
      rw [state, List.map_cons, List.map_cons, answer, answers]
      exact ⟨last, rfl⟩

theorem perform_silenced (session : Session) (command : Command) (other : command.setup? = none) :
    session.silenced.perform S command =
      ((session.perform S command).1.silenced, (session.perform S command).2.muted) := by
  have silent : (session.silenced.perform S command).2.output = [] := by
    rw [perform_output]
    exact List.flatMap_eq_nil_iff.mpr fun _ _ => rfl
  have told : (session.silenced.perform S command).1 = (session.perform S command).1.silenced ∧
      (session.silenced.perform S command).2.answer = (session.perform S command).2.answer := by
    cases command with
    | addConsensus source =>
        rw [perform, perform, addConsensus, addConsensus]
        cases source.signer S <;> exact ⟨rfl, rfl⟩
    | addProxy delegation source =>
        rw [perform, perform, addProxy, addProxy]
        split <;> exact ⟨rfl, rfl⟩
    | request request => exact serve_silenced S session request
    | gather requests =>
        obtain ⟨last, answers⟩ := serve_all_silenced S session requests
        exact ⟨last, congrArg (fun list => Except.ok (Reply.batch list)) answers⟩
    | setupLogging choice format => cases other
    | applyConfig config =>
        rw [perform, perform]
        cases read : LoggingConfig.ofValue config with
        | error fault => exact ⟨rfl, rfl⟩
        | ok config =>
            rw [Command.setup?, read] at other
            cases other
    | enterScope tags =>
        rw [perform, perform, enterScope, enterScope]
        cases Scope.ofTags tags <;> exact ⟨rfl, rfl⟩
    | _ => exact ⟨rfl, rfl⟩
  obtain ⟨state, answer⟩ := told
  refine Prod.ext state ?_
  rw [Response.muted, ← answer, ← silent]

theorem clocked_silenced (session : Session) (act : Act) :
    session.silenced.clocked act = (session.clocked act).silenced := by
  cases act with
  | step taken =>
      rw [clocked, clocked, timed, timed]
      cases taken.time <;> rfl
  | setup level json => rfl

theorem act_other (session : Session) (act : Act) (other : act.setup? = none) :
    session.silenced.act S act = ((session.act S act).1.silenced, (session.act S act).2.muted) := by
  cases act with
  | setup level json => cases other
  | step taken =>
      rw [Session.act, advance_timed]
      change (session.silenced.clocked (.step taken)).perform S taken.command = _
      rw [clocked_silenced]
      exact perform_silenced S _ taken.command (Option.map_eq_none_iff.mp other)

theorem act_silenced (session : Session) (act : Act) (quiet : act.setsUp = false) :
    session.silenced.act S act = ((session.act S act).1.silenced, (session.act S act).2.muted) := by
  cases asked : act.setup? with
  | none => exact act_other S session act asked
  | some setup =>
      obtain ⟨read, format⟩ := setup
      rw [act_set_up S _ act read format asked, act_set_up S _ act read format asked,
        clocked_silenced]
      cases read with
      | error fault => rfl
      | ok level =>
          rw [Act.setsUp, asked] at quiet
          cases quiet

theorem act_restored (session : Session) (act : Act) (again : act.setsUp = true) :
    session.silenced.act S act = session.act S act := by
  rw [Act.setsUp] at again
  split at again
  · next level format asked =>
      rw [act_set_up S _ act _ format asked, act_set_up S _ act _ format asked, clocked_silenced]
      rfl
  · cases again

theorem play_silenced (session : Session) (acts : List Act)
    (quiet : ∀ act ∈ acts, act.setsUp = false) :
    session.silenced.play S acts =
      ((session.play S acts).1.silenced, (session.play S acts).2.map Response.muted) := by
  induction acts generalizing session with
  | nil => rfl
  | cons first rest ih =>
      rw [play_cons, play_cons, act_silenced S session first (quiet first List.mem_cons_self),
        ih _ fun act member => quiet act (List.mem_cons_of_mem _ member)]
      rfl

theorem play_restored (session : Session) (acts : List Act) (again : Act) (rest : List Act)
    (quiet : ∀ act ∈ acts, act.setsUp = false) (setsUp : again.setsUp = true) :
    session.silenced.play S (acts ++ again :: rest) =
      ((session.play S (acts ++ again :: rest)).1,
        (session.play S acts).2.map Response.muted ++
          ((session.play S acts).1.play S (again :: rest)).2) := by
  rw [play_append, play_append, play_silenced S session acts quiet, play_cons,
    act_restored S _ again setsUp]
  rfl

/-! ## Failed setups -/

-- A setup that fails in a session: it answers with a fault and takes the handler away, and the
-- level and all else stay. What comes behind it is compared with the session in which it was not
-- called (but for the clock, if that was set with it).
structure Silences (session : Session) (call : Act) (fault : Fault) : Prop where
  told : session.act S call = ((session.clocked call).silenced, ⟨.error fault, []⟩)
  root : (session.act S call).1.sink.root = ⟨[], session.sink.root.level⟩
  quiet : ∀ acts, (∀ act ∈ acts, act.setsUp = false) →
    (session.act S call).1.play S acts =
      (((session.clocked call).play S acts).1.silenced,
        ((session.clocked call).play S acts).2.map Response.muted)
  restored : ∀ acts again rest, (∀ act ∈ acts, act.setsUp = false) → again.setsUp = true →
    (session.act S call).1.play S (acts ++ again :: rest) =
      (((session.clocked call).play S (acts ++ again :: rest)).1,
        ((session.clocked call).play S acts).2.map Response.muted ++
          (((session.clocked call).play S acts).1.play S (again :: rest)).2)
  unheard : session.sink.handler = none → (session.act S call).1 = session.clocked call

theorem clocked_sink (session : Session) (act : Act) :
    (session.clocked act).sink = session.sink := by
  cases act with
  | step taken => exact timed_sink session taken
  | setup level json => rfl

theorem clocked_unset (session : Session) (act : Act) (unset : act.setsClock = false) :
    session.clocked act = session := by
  cases act with
  | step taken =>
      obtain ⟨time, command⟩ := taken
      cases time with
      | none => rfl
      | some time => cases unset
  | setup level json => rfl

theorem set_up_silences (session : Session) (call : Act) (read : Except Fault Int)
    (format : Log.Format) (fault : Fault) (asked : call.setup? = some (read, format))
    (failed : (session.act S call).2.answer = .error fault) : Silences S session call fault := by
  have told : session.act S call = ((session.clocked call).silenced, ⟨.error fault, []⟩) := by
    rw [act_set_up S session call read format asked] at failed ⊢
    cases read with
    | ok level => cases failed
    | error other =>
        cases failed
        rfl
  constructor
  case told => exact told
  case root => rw [told, silenced_root, clocked_sink]
  case quiet =>
    rw [told]
    exact play_silenced S (session.clocked call)
  case restored =>
    rw [told]
    exact play_restored S (session.clocked call)
  case unheard =>
    intro bare
    rw [told]
    exact silenced_bare _ (clocked_sink session call ▸ bare)

theorem failed_setup_silences (session : Session) (earlier : List Act) (call : Act)
    (read : Except Fault Int) (format : Log.Format) (fault : Fault)
    (asked : call.setup? = some (read, format))
    (failed : ((session.play S earlier).1.act S call).2.answer = .error fault) :
    Silences S (session.play S earlier).1 call fault ∧
      (∀ later,
        (session.play S (earlier ++ call :: later)).2 =
          (session.play S earlier).2 ++ ⟨.error fault, []⟩ ::
            (((session.play S earlier).1.act S call).1.play S later).2 ∧
        (call.setsClock = false → (session.play S (earlier ++ later)).2 =
          (session.play S earlier).2 ++
            (((session.play S earlier).1.clocked call).play S later).2)) ∧
      ∀ steps : List Step, session.play S (steps.map .step) = session.run S steps := by
  have silences := set_up_silences S _ call read format fault asked failed
  refine ⟨silences, fun later => ⟨?_, ?_⟩, play_steps S session⟩
  · rw [play_append, play_cons, silences.told]
  · intro unset
    rw [play_append, clocked_unset _ call unset]

def heard : Act := .step ⟨none, .setupLogging (.named "INFO") .text⟩

-- A section that lists its level.
def misled : Act := .setup (.list [.text "INFO"]) (.bool true)

def remark : Act := .step ⟨none, .log "t" 20 "m" [] none⟩

theorem misled_setup_silences :
    Silences Recorded.scheme ((start .mainnet).play Recorded.scheme [heard]).1 misled
        (.levelKind (.list [.text "INFO"])) ∧
      ((start .mainnet).play Recorded.scheme [heard, misled, remark, heard, remark]).2.map
          (·.output) = [[], [], [], [], "1970-01-01 00:00:00,000 INFO t [-] m\n"] := by
  obtain ⟨silences, _⟩ := failed_setup_silences Recorded.scheme (start .mainnet) [heard] misled _ _
    _ rfl rfl
  exact ⟨silences, by decide +kernel⟩

theorem unknown_level_unheard :
    let session := ((start .mainnet).play Recorded.scheme [heard]).1
    let misnamed := .step ⟨none, .setupLogging (.named "LOUD") .text⟩
    session.sink.root = ⟨[.tagging .text], 20⟩ ∧
      (session.act Recorded.scheme misnamed).2.answer = .error (.levelName "LOUD") ∧
      (session.act Recorded.scheme misnamed).1.sink.root = ⟨[], 20⟩ ∧
      (session.play Recorded.scheme [misnamed, remark]).2.flatMap (·.output) = [] ∧
      (session.play Recorded.scheme [remark]).2.flatMap (·.output) =
        "1970-01-01 00:00:00,000 INFO t [-] m\n" := by
  refine ⟨rfl, rfl, rfl, ?_, ?_⟩ <;> decide +kernel

end Session

end KeyCustody
