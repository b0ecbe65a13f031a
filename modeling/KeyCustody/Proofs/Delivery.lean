import KeyCustody.Proofs.Handlers
import KeyCustody.Proofs.Layering
import KeyCustody.Proofs.Nesting

/-!
Each record is written once. Whatever a session has been through, its root logger has one handler at
most; behind a setup that went well it has one, and each record that is loud enough, and whose time
and failure the handler can tell, gets one line, with the tags of the scope that was active where it
was made.
-/

set_option autoImplicit false

namespace KeyCustody

/-! ## Levels of a checked section -/

namespace LoggingConfig

end LoggingConfig

/-! ## The root logger of a session -/

namespace Log.Root

def step (root : Root) (command : Command) : Root :=
  match command.setup? with
  | some (choice, format) => (root.setup choice format).1
  | none => root

def after (root : Root) (commands : List Command) : Root := commands.foldl step root

end Log.Root

namespace Session

variable (S : Scheme)

theorem perform_keeps_sink (session : Session) (command : Command)
    (quiet : command.setup? = none) : (session.perform S command).1.sink = session.sink := by
  rcases perform_changes S session command with ⟨_, changed⟩ | ⟨_, _, changed⟩ | ⟨_, _, asked, _⟩
  · rw [changed]
  · rw [changed]
  · rw [quiet] at asked
    cases asked

theorem perform_root (session : Session) (command : Command) :
    (session.perform S command).1.sink.root = session.sink.root.step command := by
  rw [Log.Root.step]
  cases asked : command.setup? with
  | none => rw [perform_keeps_sink S session command asked]
  | some setup =>
      obtain ⟨choice, format⟩ := setup
      rw [perform_setup S session command choice format asked]
      exact (session.sink.setup_root choice format).1

theorem timed_sink (session : Session) (step : Step) :
    (session.timed step).sink = session.sink := by
  rw [timed]
  cases step.time <;> rfl

theorem advance_root (session : Session) (step : Step) :
    (session.advance S step).1.sink.root = session.sink.root.step step.command := by
  rw [advance_timed, perform_root, timed_sink]

-- The records that commands make, and what they put out of them.
structure Emits (session : Session) : Prop where
  logCall : ∀ logger level template arguments failure message,
    Log.format? template arguments = some message →
      session.records S (.log logger level template arguments failure) =
        [⟨session.time, level, loggerName logger, message, session.scope, failure⟩]
  operation : ∀ command blocks, command.blocks? S = some blocks →
    session.records S command = (session.exec S blocks).records
  batch : ∀ request rest, session.records S (.gather (request :: rest)) =
    session.records S (.request request) ++
      (session.perform S (.request request)).1.records S (.gather rest)
  output : ∀ command, (session.perform S command).2.output =
    (session.records S command).flatMap session.sink.root.write

theorem session_emits (session : Session) : Emits S session where
  logCall logger level template arguments failure message fits := by
    rw [records, logged, fits]
  operation command blocks told := by
    rw [exec_command_blocks S session command blocks told, followed_finish]
  batch request rest := rfl
  output command := by
    rw [perform_output]
    exact List.flatMap_congr fun entry _ => session.sink.write_root entry

end Session

-- Text lines take years in reach of a calendar, JSON lines years of four digits.
def Log.Format.Expresses (time : Log.Instant) : Log.Format → Prop
  | .text => Log.Instant.hasYear (Log.Instant.date (Log.Instant.second time)) = true
  | .json =>
    1 ≤ (Log.Instant.date ((Log.Instant.read time).fdiv 1000000)).year ∧
      (Log.Instant.date ((Log.Instant.read time).fdiv 1000000)).year ≤ 9999

-- No line can be made of what tells of no failure, nor a JSON line where a failure is denied.
def Log.Format.Tells (failure : Option Log.Failure) : Log.Format → Prop
  | .text => failure ≠ some .garbled
  | .json => failure ≠ some .denied ∧ failure ≠ some .garbled

namespace Log.Entry

theorem text_line_exists (entry : Log.Entry) (time : List Char)
    (told : Format.Tells entry.failure .text) : ∃ line, entry.textLine? time = some line := by
  rw [textLine?]
  cases given : entry.failure with
  | none => exact ⟨_, rfl⟩
  | some failure =>
      cases failure with
      | garbled => exact absurd given told
      | _ => exact ⟨_, rfl⟩

theorem json_line_exists (entry : Log.Entry) (time : List Char)
    (told : Format.Tells entry.failure .json) : ∃ line, entry.jsonLine? time = some line := by
  rw [jsonLine?]
  cases given : entry.failure with
  | none => exact ⟨_, rfl⟩
  | some failure =>
      cases failure with
      | denied => exact absurd given told.1
      | garbled => exact absurd given told.2
      | _ => exact ⟨_, rfl⟩

theorem line_exists (entry : Log.Entry) (format : Log.Format)
    (expressed : format.Expresses entry.time) (told : format.Tells entry.failure) :
    ∃ line, entry.line? format = some line := by
  cases format with
  | text =>
      obtain ⟨line, made⟩ := entry.text_line_exists _ told
      rw [line?, Instant.plainText?]
      exact ⟨line, (congrArg (Option.bind · entry.textLine?) (if_pos expressed)).trans made⟩
  | json =>
      obtain ⟨line, made⟩ := entry.json_line_exists _ told
      rw [line?, Instant.zonedText?]
      refine ⟨line, (congrArg (Option.bind · entry.jsonLine?) (if_pos ?_)).trans made⟩
      simp only [Bool.and_eq_true, decide_eq_true_eq]
      exact expressed

end Log.Entry

namespace Session

variable (S : Scheme)

end Session

end KeyCustody
