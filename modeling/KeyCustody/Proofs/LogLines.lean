import KeyCustody.Proofs.Delivery
import KeyCustody.Proofs.Json
import KeyCustody.Text.Split

/-!
A JSON line tells what its record held and nothing else. Whatever text is in it, the line is
printable ASCII, so that each record has one line; a reader finds every field under its own name and
with its own text, in order, and no other.
-/

set_option autoImplicit false

namespace KeyCustody

/-! ## Printable ASCII -/

namespace Json

def Printable (chars : List Char) : Prop := ∀ c ∈ chars, 32 ≤ c.toNat ∧ c.toNat < 127

instance (chars : List Char) : Decidable (Printable chars) := List.decidableBAll _ chars

theorem printable_append (first second : List Char) :
    Printable (first ++ second) ↔ Printable first ∧ Printable second :=
  List.forall_mem_append

theorem printable_cons (c : Char) (rest : List Char) :
    Printable (c :: rest) ↔ (32 ≤ c.toNat ∧ c.toNat < 127) ∧ Printable rest :=
  List.forall_mem_cons

theorem hex_digits_printable (count n : Nat) : Printable (Value.hexDigits count n) := by
  have table : ∀ n < 16, Printable [Hex.digit n] := by decide
  induction count generalizing n with
  | zero => exact List.forall_mem_nil _
  | succ count ih =>
      rw [Value.hexDigits, printable_append]
      exact ⟨ih (n / 16), table (n % 16) (Nat.mod_lt n (by decide))⟩

theorem escape_unit_printable (n : Nat) : Printable (escapeUnit n) := by
  rw [escapeUnit, printable_cons, printable_cons]
  exact ⟨by decide, by decide, hex_digits_printable 4 n⟩

theorem escape_char_printable (c : Char) : Printable (escapeChar c) := by
  rw [escapeChar]
  -- The two characters that end or open an escape, and five with a short escape of their own.
  iterate 7
    split
    · decide
  split
  · next visible => exact List.forall_mem_singleton.mpr visible
  · split
    · exact escape_unit_printable _
    · rw [printable_append]
      exact ⟨escape_unit_printable _, escape_unit_printable _⟩

theorem quote_printable (text : Text) : Printable (quote text) := by
  have escaped : Printable (text.flatMap escape) := by
    intro c member
    obtain ⟨point, _, written⟩ := List.mem_flatMap.mp member
    cases point with
    | char plain => exact escape_char_printable plain c written
    | half distance => exact escape_unit_printable _ c written
  rw [quote, printable_append, printable_cons]
  exact ⟨⟨by decide, escaped⟩, by decide⟩

theorem join_printable (comma : List Char) (items : List (List Char))
    (commaPrintable : Printable comma) (itemsPrintable : ∀ item ∈ items, Printable item) :
    Printable (join comma items) := by
  fun_induction join comma items with
  | case1 => exact List.forall_mem_nil _
  | case2 item => exact itemsPrintable item List.mem_cons_self
  | case3 item rest _ ih =>
      rw [List.forall_mem_cons] at itemsPrintable
      rw [printable_append, printable_append]
      exact ⟨⟨itemsPrintable.1, commaPrintable⟩, ih itemsPrintable.2⟩

-- The entries of a mapping from names to texts.
def textEntries (members : List (Text × Text)) : Value.Entries :=
  members.map fun member => (.text member.1, .text member.2)

theorem text_entries_printable (members : List (Text × Text)) :
    Printable (write spaced (.mapping (textEntries members))) := by
  have items : ∀ item ∈ writeEntries spaced (textEntries members), Printable item := by
    induction members with
    | nil => exact List.forall_mem_nil _
    | cons first rest ih =>
        rw [textEntries, List.map_cons, writeEntries, List.forall_mem_cons]
        refine ⟨?_, ih⟩
        rw [write, member, printable_append, printable_append]
        exact ⟨⟨quote_printable first.1, by decide⟩, quote_printable first.2⟩
  rw [write, printable_append, printable_cons]
  exact ⟨⟨by decide, join_printable _ _ (by decide) items⟩, by decide⟩

theorem text_entries_plain (members : List (Text × Text))
    (whole : ∀ member ∈ members, member.1.Whole ∧ member.2.Whole) :
    Plain 1 (.mapping (textEntries members)) := by
  have named : ∃ named : Members, textEntries members = named.entries ∧
      ∀ member ∈ named, Plain 0 member.2 := by
    induction members with
    | nil => exact ⟨[], rfl, List.forall_mem_nil _⟩
    | cons first rest ih =>
        rw [List.forall_mem_cons] at whole
        obtain ⟨⟨⟨name, nameWhole⟩, text, textWhole⟩, restWhole⟩ := whole
        obtain ⟨named, same, plain⟩ := ih restWhole
        refine ⟨(name, .text first.2) :: named, ?_, ?_⟩
        · rw [textEntries, List.map_cons, ← textEntries, same, nameWhole]
          rfl
        · exact List.forall_mem_cons.mpr ⟨textWhole ▸ .text 0 text, plain⟩
  obtain ⟨named, same, plain⟩ := named
  rw [same]
  exact .mapping 0 named plain

theorem read_text_entries (rules : Rules) (deep : 0 < rules.depth) (members : List (Text × Text))
    (whole : ∀ member ∈ members, member.1.Whole ∧ member.2.Whole) :
    read rules (write spaced (.mapping (textEntries members))) =
      .ok (.mapping (textEntries members)) :=
  read_written rules spaced_spaced 1 _ (text_entries_plain members whole) deep

end Json

/-! ## Fields -/

namespace Log.Payload

inductive Field where
  | timestamp
  | level
  | logger
  | message
  | tag (field : Scope.Field)
  | exception
deriving DecidableEq

-- The fields in the order of a line.
def Field.all : List Field :=
  [timestamp, level, logger, message, tag .keyRole, tag .pubkey, tag .delegator, tag .caller,
    exception]

def Field.name : Field → Text
  | timestamp => "timestamp"
  | level => "level"
  | logger => "logger"
  | message => "message"
  | tag field => field.name
  | exception => "exception"

def get (payload : Payload) : Field → Option Text
  | .timestamp => some payload.timestamp
  | .level => some payload.level
  | .logger => some payload.logger
  | .message => some payload.message
  | .tag field => payload.scope.get field
  | .exception => payload.exception

theorem field_listed (field : Field) : field ∈ Field.all := by
  cases field with
  | tag field => cases field <;> decide
  | _ => decide

theorem names_distinct : (Field.all.map Field.name).Nodup := by decide

theorem name_injective (field other : Field) (same : field.name = other.name) : field = other :=
  List.inj_on_of_nodup_map names_distinct (field_listed field) (field_listed other) same

-- A payload is known by its fields.
theorem get_injective (payload other : Payload)
    (same : ∀ field, payload.get field = other.get field) : payload = other := by
  obtain ⟨_, _, _, _, ⟨_, _, _, _⟩, _⟩ := payload
  obtain ⟨_, _, _, _, ⟨_, _, _, _⟩, _⟩ := other
  cases same .timestamp
  cases same .level
  cases same .logger
  cases same .message
  cases same (.tag .keyRole)
  cases same (.tag .pubkey)
  cases same (.tag .delegator)
  cases same (.tag .caller)
  cases same .exception
  rfl

theorem members_listed (payload : Payload) :
    payload.members = Field.all.filterMap fun field =>
      (payload.get field).map fun text => (field.name, text) := by
  have parts : Field.all = [.timestamp, .level, .logger, .message] ++
      Scope.Field.all.map .tag ++ [.exception] := rfl
  obtain ⟨timestamp, level, logger, message, scope, exception⟩ := payload
  rw [parts, List.filterMap_append, List.filterMap_append, List.filterMap_map, members,
    Scope.tags_listed]
  cases exception <;> rfl

theorem mem_members_iff (payload : Payload) (field : Field) (text : Text) :
    (field.name, text) ∈ payload.members ↔ payload.get field = some text := by
  simp only [members_listed, List.mem_filterMap, Option.map_eq_some_iff, Prod.mk.injEq]
  constructor
  · rintro ⟨other, _, _, held, same, rfl⟩
    rw [← name_injective other field same]
    exact held
  · intro held
    exact ⟨field, field_listed field, text, held, rfl, rfl⟩

def entries (payload : Payload) : Value.Entries := Json.textEntries payload.members

-- What a reader is to find in a line: the names of the fields that are there, in order, and under
-- each name the text of its field.
structure Tells (payload : Payload) (entries : Value.Entries) : Prop where
  keys : entries.map Prod.fst =
    (Field.all.filter fun field => (payload.get field).isSome).map fun field => .text field.name
  distinct : Value.Distinct entries
  found : ∀ field, Value.field? entries field.name = (payload.get field).map .text

theorem entries_keys (payload : Payload) :
    payload.entries.map Prod.fst =
      (Field.all.filter fun field => (payload.get field).isSome).map fun field =>
        .text field.name := by
  rw [entries, Json.textEntries, members_listed, List.map_map]
  generalize Field.all = fields
  induction fields with
  | nil => rfl
  | cons field rest ih =>
      cases held : payload.get field with
      | none => simpa [held] using ih
      | some text => simpa [held] using ih

theorem entries_distinct (payload : Payload) : Value.Distinct payload.entries := by
  have separate : Function.Injective fun field : Field => Value.text field.name :=
    fun field other same => name_injective field other (Value.text.inj same)
  rw [Value.Distinct, entries_keys]
  exact (names_distinct.of_map.filter _).map separate

theorem entries_told (payload : Payload) : payload.Tells payload.entries where
  keys := payload.entries_keys
  distinct := payload.entries_distinct
  found field := by
    apply Option.ext
    intro value
    rw [Value.field_some_iff _ payload.entries_distinct, Option.map_eq_some_iff]
    simp only [entries, Json.textEntries, List.mem_map, Prod.mk.injEq, Value.text.injEq,
      ← mem_members_iff]
    constructor
    · rintro ⟨⟨_, text⟩, member, rfl, rfl⟩
      exact ⟨text, member, rfl⟩
    · rintro ⟨text, member, rfl⟩
      exact ⟨(field.name, text), member, rfl, rfl⟩

/-! ## Lines -/

-- No text of the payload holds half of a surrogate pair.
def Whole (payload : Payload) : Prop :=
  ∀ field text, payload.get field = some text → text.Whole

theorem name_whole (field : Field) : field.name.Whole := by
  cases field with
  | tag field => cases field <;> exact ⟨_, rfl⟩
  | _ => exact ⟨_, rfl⟩

theorem members_whole (payload : Payload) (whole : payload.Whole) :
    ∀ member ∈ payload.members, member.1.Whole ∧ member.2.Whole := by
  intro member listed
  rw [members_listed, List.mem_filterMap] at listed
  obtain ⟨field, _, shown⟩ := listed
  obtain ⟨text, held, rfl⟩ := Option.map_eq_some_iff.mp shown
  exact ⟨name_whole field, whole field text held⟩

theorem line_written (payload : Payload) :
    payload.line = Text.ofChars (Json.write Json.spaced (.mapping payload.entries)) := by
  rw [line, Value.fields, List.map_map]
  rfl

theorem line_printable (payload : Payload) :
    ∀ point ∈ payload.line, 32 ≤ point.code ∧ point.code < 127 := by
  intro point member
  rw [line_written, Text.ofChars, List.mem_map] at member
  obtain ⟨c, written, rfl⟩ := member
  exact Json.text_entries_printable payload.members c written

theorem read_line (payload : Payload) (whole : payload.Whole) (rules : Json.Rules)
    (deep : 0 < rules.depth) :
    ∃ chars, payload.line = Text.ofChars chars ∧
      Json.read rules chars = .ok (.mapping payload.entries) :=
  ⟨_, payload.line_written,
    Json.read_text_entries rules deep payload.members (payload.members_whole whole)⟩

theorem line_injective (payload other : Payload) (whole : payload.Whole) (otherWhole : other.Whole)
    (same : payload.line = other.line) : payload = other := by
  obtain ⟨chars, written, read⟩ := payload.read_line whole Json.strict (by decide)
  obtain ⟨otherChars, otherWritten, otherRead⟩ := other.read_line otherWhole Json.strict (by decide)
  rw [written, otherWritten] at same
  rw [Text.of_chars_injective _ _ same, otherRead] at read
  have entries : other.entries = payload.entries := by simpa using read
  refine get_injective payload other fun field => ?_
  have found := payload.entries_told.found field
  rw [← entries, other.entries_told.found field] at found
  exact (Option.map_injective (fun _ _ => Value.text.inj) found).symm

-- What a line must be for what it tells.
structure Faithful (payload : Payload) (line : Text) : Prop where
  printable : ∀ point ∈ line, 32 ≤ point.code ∧ point.code < 127
  decoded : ∀ rules : Json.Rules, 0 < rules.depth → ∃ chars entries,
    line = Text.ofChars chars ∧ Json.read rules chars = .ok (.mapping entries) ∧
      payload.Tells entries
  alone : ∀ other : Payload, other.Whole → other.line = line → other = payload

theorem line_faithful (payload : Payload) (whole : payload.Whole) :
    payload.Faithful payload.line where
  printable := payload.line_printable
  decoded rules deep := by
    obtain ⟨chars, written, read⟩ := payload.read_line whole rules deep
    exact ⟨chars, payload.entries, written, read, payload.entries_told⟩
  alone other otherWhole same := line_injective other payload otherWhole whole same

end Log.Payload

/-! ## Output -/

namespace Text

theorem split_line (line rest : Text) (single : .char '\n' ∉ line) :
    split "\n" none (line ++ ("\n" : Text) ++ rest) = line :: split "\n" none rest := by
  induction line with
  | nil => rfl
  | cons point line ih =>
      simp only [List.mem_cons, not_or] at single
      have ih := ih single.2
      have passed : List.isPrefixOf ("\n" : Text) (point :: (line ++ ("\n" : Text) ++ rest)) =
          false := by
        change (CodePoint.char '\n' == point && true) = false
        simp [single.1]
      rw [split] at ih ⊢
      rw [List.cons_append, List.cons_append, splitFrom, passed, Bool.and_false, if_neg
        Bool.false_ne_true, ih, extendFirst]

theorem split_lines (lines : List Text) (single : ∀ line ∈ lines, .char '\n' ∉ line) :
    split "\n" none (lines.flatMap fun line => line ++ ("\n" : Text)) = lines ++ [[]] := by
  induction lines with
  | nil => rfl
  | cons line rest ih =>
      rw [List.forall_mem_cons] at single
      rw [List.flatMap_cons, split_line _ _ single.1, ih single.2, List.cons_append]

end Text

namespace Log

theorem Entry.json_line_iff (entry : Entry) (line : Text) :
    entry.line? .json = some line ↔
      ∃ stamp, Instant.zonedText? entry.time = some stamp ∧
        entry.failure.all (·.text?.isSome) = true ∧ (entry.payload stamp).line = line := by
  rw [line?, Option.bind_eq_some_iff]
  simp only [jsonLine?, Option.ite_none_right_eq_some, Option.some.injEq]

theorem Entry.payload_exception (entry : Entry) (stamp : List Char)
    (told : entry.failure.all (·.text?.isSome) = true) :
    (entry.payload stamp).exception.isSome = entry.failure.isSome := by
  change (entry.failure.bind Failure.text?).isSome = _
  cases given : entry.failure with
  | none => rfl
  | some failure =>
      rw [given] at told
      exact told

theorem Entry.json_line_single (entry : Entry) (line : Text)
    (written : entry.line? .json = some line) : .char '\n' ∉ line := by
  obtain ⟨stamp, _, _, rfl⟩ := (entry.json_line_iff line).mp written
  intro broken
  exact absurd (Payload.line_printable _ _ broken).1 (by decide)

def Root.json (level : Int) : Root := ⟨[.tagging .json], level⟩

theorem Root.json_lines (level : Int) (entry : Entry) :
    ∀ line ∈ (Root.json level).lines entry, entry.line? .json = some line := by
  intro line member
  rw [lines] at member
  split at member
  · obtain ⟨handler, only, written⟩ := List.mem_filterMap.mp member
    rw [List.mem_singleton.mp only, Handler.tagging_line] at written
    exact written
  · cases member

-- Each line of the output is the line of a record, whatever the records hold.
theorem Root.json_output (level : Int) (entries : List Entry) :
    Text.split "\n" none (entries.flatMap (Root.json level).write) =
      entries.flatMap (Root.json level).lines ++ [[]] := by
  have joined : entries.flatMap (Root.json level).write =
      (entries.flatMap (Root.json level).lines).flatMap fun line => line ++ ("\n" : Text) :=
    List.flatMap_assoc.symm
  rw [joined]
  refine Text.split_lines _ fun line member => ?_
  obtain ⟨entry, _, own⟩ := List.mem_flatMap.mp member
  exact entry.json_line_single line (Root.json_lines level entry line own)

end Log

namespace Session

variable (S : Scheme)

def runRecords : Session → List Step → List Log.Entry
  | _, [] => []
  | session, step :: rest =>
    (session.timed step).records S step.command ++ runRecords (session.advance S step).1 rest

theorem advance_output (session : Session) (step : Step) :
    (session.advance S step).2.output =
      ((session.timed step).records S step.command).flatMap session.sink.root.write := by
  rw [advance_timed, (session_emits S (session.timed step)).output, timed_sink]

theorem advance_quiet (session : Session) (step : Step) (quiet : step.command.setup? = none) :
    (session.advance S step).1.sink.root = session.sink.root := by
  rw [advance_root, Log.Root.step, quiet]

theorem run_output (session : Session) (steps : List Step)
    (quiet : ∀ step ∈ steps, step.command.setup? = none) :
    (session.run S steps).2.flatMap (·.output) =
      (session.runRecords S steps).flatMap session.sink.root.write := by
  induction steps generalizing session with
  | nil => rfl
  | cons step rest ih =>
      rw [List.forall_mem_cons] at quiet
      rw [run, List.flatMap_cons, runRecords, List.flatMap_append, advance_output,
        ih _ quiet.2, advance_quiet S session step quiet.1]

end Session

namespace Log

-- No text that an entry brings along holds half of a surrogate pair.
structure Entry.Whole (entry : Entry) : Prop where
  logger : entry.logger.Whole
  message : entry.message.Whole
  tags : ∀ field text, entry.scope.get field = some text → text.Whole
  failure : ∀ text, entry.failure.bind Failure.text? = some text → text.Whole

theorem Entry.payload_whole (entry : Entry) (whole : entry.Whole) (stamp : List Char) :
    (entry.payload stamp).Whole := by
  intro field text held
  cases field with
  | timestamp =>
      cases held
      exact ⟨stamp, rfl⟩
  | level =>
      cases held
      exact ⟨_, rfl⟩
  | logger =>
      cases held
      exact whole.logger
  | message =>
      cases held
      exact whole.message
  | tag field => exact whole.tags field text held
  | exception => exact whole.failure text held

theorem json_lines_faithful :
    (∀ payload : Payload, payload.Whole → payload.Faithful payload.line) ∧
    (∀ entry : Entry, entry.Whole → ∀ line, entry.line? .json = some line →
      ∃ stamp, Instant.zonedText? entry.time = some stamp ∧
        (entry.payload stamp).exception.isSome = entry.failure.isSome ∧
        (entry.payload stamp).Faithful line) ∧
    (∀ entry : Entry, Format.Expresses entry.time .json → Format.Tells entry.failure .json →
      ∃ line, entry.line? .json = some line) ∧
    (∀ level (entries : List Entry),
      Text.split "\n" none (entries.flatMap (Root.json level).write) =
        entries.flatMap (Root.json level).lines ++ [[]]) ∧
    ∀ (S : Scheme) (session : Session) (steps : List Session.Step) level,
      session.sink.root = Root.json level → (∀ step ∈ steps, step.command.setup? = none) →
        Text.split "\n" none ((session.run S steps).2.flatMap (·.output)) =
          (session.runRecords S steps).flatMap (Root.json level).lines ++ [[]] := by
  refine ⟨Payload.line_faithful, fun entry whole line written => ?_,
    fun entry expressed told => entry.line_exists .json expressed told, Root.json_output,
    fun S session steps level json quiet => ?_⟩
  · obtain ⟨stamp, told, failure, rfl⟩ := (entry.json_line_iff line).mp written
    exact ⟨stamp, told, entry.payload_exception stamp failure,
      Payload.line_faithful _ (entry.payload_whole whole stamp)⟩
  · rw [session.run_output S steps quiet, json, Root.json_output]

-- Text that would close its own field and its line, were it not escaped.
def forgedMessage : Text := "\"\x7d\n\x7b\"level\": \"DEBUG\\"

def forgedEntry : Entry where
  time := 1700000000000000
  level := 30
  logger := "t"
  message := forgedMessage
  scope := ⟨some "proxy", none, none, some "𝄞\r"⟩
  failure := some (.raised .value [.text "\t"])

def forgedLine : String :=
  "\x7b\"timestamp\": \"2023-11-14T22:13:20+00:00\", \"level\": \"WARNING\", \"logger\": \"t\", " ++
  "\"message\": \"\\\"\x7d\\n\x7b\\\"level\\\": \\\"DEBUG\\\\\", \"key_role\": \"proxy\", " ++
  "\"caller\": \"\\ud834\\udd1e\\r\", \"exception\": \"ValueError: \\t\"\x7d"

-- A level without a name, and a failure told on several lines.
def tracedPayload : Payload :=
  ⟨"2023-11-14T22:13:20+00:00", "Level 25", "root", "", .empty,
    some "Traceback (most recent call last):\n  File \"a.py\"\nValueError"⟩

def jsonSession : Session :=
  ((Session.start .mainnet).run Recorded.scheme [⟨none, .setupLogging (.named "INFO") .json⟩]).1

def forgedRun : List Session.Step :=
  [⟨some 1700000000000000, .log "t" 30 forgedMessage [] none⟩,
    ⟨none, .log "t" 10 forgedMessage [] none⟩, ⟨none, .log "t" 40 forgedMessage [] none⟩]

theorem forged_lines_faithful :
    (∃ stamp, (forgedEntry.payload stamp).Faithful forgedLine) ∧
      tracedPayload.Faithful tracedPayload.line ∧
      (Text.split "\n" none
        ((jsonSession.run Recorded.scheme forgedRun).2.flatMap (·.output))).length = 3 := by
  obtain ⟨payloads, entries, expressed, _, runs⟩ := json_lines_faithful
  have forged : forgedEntry.Whole := by
    refine ⟨⟨_, rfl⟩, ⟨_, rfl⟩, fun field text held => ?_, fun text raised => ?_⟩
    · cases field <;> cases held <;> exact ⟨_, rfl⟩
    · cases raised
      exact ⟨"ValueError: \t".toList, by decide +kernel⟩
  have traced : tracedPayload.Whole := by
    intro field text held
    cases field with
    | tag field => cases field <;> cases held
    | _ =>
        cases held
        exact ⟨_, rfl⟩
  obtain ⟨line, written⟩ := expressed forgedEntry ⟨by decide +kernel, by decide +kernel⟩
    ⟨nofun, nofun⟩
  have told : forgedEntry.line? .json = some forgedLine := by decide +kernel
  rw [Option.some.inj (written.symm.trans told)] at written
  obtain ⟨stamp, _, _, faithful⟩ := entries forgedEntry forged forgedLine written
  refine ⟨⟨stamp, faithful⟩, payloads tracedPayload traced, ?_⟩
  rw [runs Recorded.scheme jsonSession forgedRun 20 rfl (by decide)]
  decide +kernel

end Log

end KeyCustody
