import KeyCustody.Config.File
import KeyCustody.Proofs.Dictionary
import KeyCustody.Proofs.Except
import KeyCustody.Proofs.Pubkey
import KeyCustody.Proofs.Variables

/-!
Settings from a file and the environment, leaf by leaf: what the environment says comes first, then
what the section of the file says, then the default. Nothing else in either of them matters.
-/

set_option autoImplicit false

namespace KeyCustody

namespace Settings

open Environment (chainVariable levelVariable jsonVariable)

/-- A section as a document can hold it. Its names are its own only where they start with no
underscore, and its logging section is a mapping. -/
structure Section where
  fields : List (Text × Value)
  plain : ∀ field ∈ fields, field.1.head? ≠ some (.char '_')
  nested : ∀ field ∈ fields, field.1 = Text.ofString "logging" → ∃ inner, field.2 = .mapping inner

def emptySection : Section := ⟨[], List.forall_mem_nil _, List.forall_mem_nil _⟩

namespace Section

variable (given : Section)

def entries : Value.Entries := given.fields.map fun field => (.text field.1, field.2)

def chain? : Option Value := Value.field? given.entries "chain"

def loggingLeaf? (name : Text) : Option Value :=
  match Value.field? given.entries "logging" with
  | some (.mapping inner) => Value.field? inner name
  | _ => none

theorem mem_entries (entry : Value × Value) (member : entry ∈ given.entries) :
    ∃ field ∈ given.fields, entry = (.text field.1, field.2) := by
  obtain ⟨field, held, same⟩ := List.mem_map.mp member
  exact ⟨field, held, same.symm⟩

theorem entries_distinct (keyed : Value.Keyed (.mapping given.entries)) :
    Value.Distinct given.entries := by
  have keys : given.entries.map Prod.fst = (given.fields.map Prod.fst).map .text := by
    rw [entries, List.map_map, List.map_map]
    rfl
  rw [Value.Distinct, keys]
  exact List.Pairwise.map Value.text (fun _ _ different same => different (Value.text.inj same))
    (Value.apart_distinct given.fields (Value.keyed_apart given.entries keyed))

theorem own_name_absent (name : Text) (own : name.head? = some (.char '_')) :
    Value.field? given.entries name = none := by
  rw [Value.field_none_iff]
  intro held
  obtain ⟨entry, member, named⟩ := List.mem_map.mp held
  obtain ⟨field, there, rfl⟩ := given.mem_entries entry member
  cases Value.text.inj named
  exact given.plain field there own

theorem option_absent (name : Text) (own : name.head? = some (.char '_')) :
    Environment.Options.given? given.entries name = none := by
  rw [Environment.Options.given?, given.own_name_absent name own]

theorem option_off (name : Text) (own : name.head? = some (.char '_')) :
    Environment.Options.isOn given.entries name = false := by
  rw [Environment.Options.isOn, given.option_absent name own]
  rfl

theorem logging_mapping : Value.field? given.entries "logging" = none ∨
    ∃ inner, Value.field? given.entries "logging" = some (.mapping inner) := by
  cases found : Value.field? given.entries "logging" with
  | none => exact .inl rfl
  | some value =>
      obtain ⟨field, held, same⟩ := given.mem_entries _ (Value.field_mem _ _ _ found)
      obtain ⟨named, told⟩ := Prod.mk.inj same
      obtain ⟨inner, nested⟩ := given.nested field held (Value.text.inj named).symm
      exact .inr ⟨inner, by rw [told, nested]⟩

/-! ## Sources -/

theorem usual_options : Environment.Options.readAll given.entries = .ok Environment.usual := by
  have partLimit : Environment.Options.readPartLimit given.entries = .ok .unlimited := by
    rw [Environment.Options.readPartLimit, given.option_absent _ rfl]
  have leading : Environment.Options.readLeading given.entries =
      .ok (some Environment.Options.defaultLeading) := by
    rw [Environment.Options.readLeading, given.option_absent _ rfl]
  have nesting : Environment.Options.readNesting given.entries = .mark "__" := by
    rw [Environment.Options.readNesting, given.option_absent _ rfl]
  have noneText : Environment.Options.readNoneText given.entries = none := by
    rw [Environment.Options.readNoneText, given.option_absent _ rfl]
  rw [Environment.Options.readAll, partLimit, leading, nesting, noneText, given.option_off _ rfl,
    given.option_off _ rfl]
  rfl

theorem no_paths (name : Text) (own : name.head? = some (.char '_')) :
    Environment.Options.paths given.entries name = .ok [] := by
  rw [Environment.Options.paths, given.option_absent name own]

theorem no_files (around : Surroundings) : fileVariables given.entries around = .ok [] := by
  rw [fileVariables, given.no_paths _ rfl]
  rfl

theorem no_secrets (around : Surroundings) : checkSecrets given.entries around = .ok () := by
  rw [checkSecrets, given.no_paths _ rfl]
  rfl

theorem no_arguments : Environment.Options.arguments given.entries = .ok [] := by
  rw [Environment.Options.arguments, given.option_absent _ rfl]

end Section

theorem read_no_arguments (rules : Arguments.Rules) : Arguments.entries rules [] = .ok [] := by
  have same :
      (if rules.caseSensitive then [] else ([] : List Text).map Arguments.foldCase) = [] := by
    split <;> rfl
  have read : Arguments.read rules [] = .ok ⟨[], []⟩ := by rw [Arguments.read]
  refine (bind_ok_iff _ _ _).mpr ⟨[], rfl, ?_⟩
  rw [same, read]
  rfl

theorem silent_source (name : String) (options : Environment.Options) (leading mark : Text)
    (led : options.leading = some leading) (nested : options.nesting = .mark mark) :
    Source.entries ⟨name, options, []⟩ = .ok [] := by
  obtain ⟨_, _, _, nesting, partLimit, _⟩ := options
  cases led
  cases nested
  cases partLimit <;> rfl

theorem merged_layers (given : Section) (around : Surroundings) (told : Value.Entries)
    (read : (environmentSource around.environment).entries = .ok told) :
    merged given.entries around = .ok (overlay (overlay [] given.entries) told) := by
  have plainOff : Environment.Options.isOn given.entries plainOption = false :=
    given.option_off _ rfl
  refine (bind_ok_iff _ _ _).mpr ⟨_, given.usual_options, ?_⟩
  refine (bind_ok_iff _ _ _).mpr ⟨_, given.no_files around, ?_⟩
  refine (bind_ok_iff _ _ _).mpr ⟨_, given.no_arguments, ?_⟩
  refine (bind_ok_iff _ _ _).mpr ⟨_, read_no_arguments _, ?_⟩
  refine (bind_ok_iff _ _ _).mpr ⟨_, silent_source _ _ _ _ rfl rfl, ?_⟩
  refine (bind_ok_iff _ _ _).mpr ⟨_, read, ?_⟩
  refine (bind_ok_iff _ _ _).mpr ⟨_, silent_source _ _ _ _ rfl rfl, ?_⟩
  refine (bind_ok_iff _ _ _).mpr ⟨_, given.no_secrets around, ?_⟩
  rw [plainOff]
  exact congrArg Except.ok (overlay_nil _)

/-! ## Leaves -/

-- The values that are left to be checked; a leaf without one has its default.
structure Leaves where
  chain : Option Value
  level : Option Value
  jsonOutput : Option Value

def chosen (environment : Environment) (given : Section) : Leaves where
  chain := ((environment.text? chainVariable).map .text).or given.chain?
  level := ((environment.text? levelVariable).map .text).or (given.loggingLeaf? "level")
  jsonOutput := ((environment.text? jsonVariable).map .text).or (given.loggingLeaf? "json_output")

def leaf {α : Type} (name : Text) (default : α) (read : Value → Checked α) (value : Option Value) :
    Checked α :=
  match value with
  | some value => Checked.under name (read value)
  | none => .ok default

def checkLogging (level jsonOutput : Option Value) : Checked LoggingConfig :=
  (Checked.both (leaf "level" LoggingConfig.default.level LoggingConfig.levelField level)
    (leaf "json_output" LoggingConfig.default.jsonOutput boolField jsonOutput)).map
      fun (level, jsonOutput) => ⟨level, jsonOutput⟩

def Leaves.check (leaves : Leaves) : Checked Settings :=
  (Checked.both (leaf "chain" .mainnet chainField leaves.chain)
    (Checked.under "logging" (checkLogging leaves.level leaves.jsonOutput))).map
      fun (chain, logging) => ⟨chain, logging⟩

theorem check_leaves (entries : Value.Entries) (chain level jsonOutput : Option Value)
    (chainTold : Value.field? entries "chain" = chain)
    (loggingTold : (Value.field? entries "logging" = none ∧ level = none ∧ jsonOutput = none) ∨
      ∃ inner, Value.field? entries "logging" = some (.mapping inner) ∧
        Value.field? inner "level" = level ∧ Value.field? inner "json_output" = jsonOutput) :
    check entries = Leaves.check ⟨chain, level, jsonOutput⟩ := by
  have logging : optional entries "logging" LoggingConfig.default loggingField =
      Checked.under "logging" (checkLogging level jsonOutput) := by
    rcases loggingTold with ⟨absent, rfl, rfl⟩ | ⟨inner, found, rfl, rfl⟩
    · rw [optional, absent]
      rfl
    · rw [optional, found]
      rfl
  rw [check, logging, optional, chainTold]
  rfl

theorem lower_field (entries : Value.Entries) (distinct : Value.Distinct entries) (name : Text) :
    Value.field? (overlay [] entries) name = Value.field? entries name := by
  rw [field_overlay [] entries distinct]
  cases Value.field? entries name with
  | none => rfl
  | some value => exact congrArg some (laid_over_nothing value)

-- A text lies over whatever is below it.
theorem texts_over (text : Option Text) (lower : Option Value) :
    ((text.map Value.text).map (laidOver lower)).or lower = (text.map Value.text).or lower := by
  cases text with
  | none => rfl
  | some text => exact congrArg some (laid_over_text lower text)

theorem check_layers (given : Section) (distinct : Value.Distinct given.entries)
    (environment : Environment) (told : Value.Entries) (tells : Told environment told) :
    check (overlay (overlay [] given.entries) told) = (chosen environment given).check := by
  apply check_leaves
  · rw [field_overlay _ told tells.distinct, lower_field _ distinct, tells.chain, texts_over]
    rfl
  · rw [field_overlay _ told tells.distinct, lower_field _ distinct]
    rcases tells.logging with ⟨absent, level, json⟩ | ⟨leaves, found, apart, level, json⟩
    · rw [absent, level, json, Section.loggingLeaf?, Section.loggingLeaf?]
      rcases given.logging_mapping with none | ⟨inner, held⟩
      · rw [none]
        exact .inl ⟨rfl, rfl, rfl⟩
      · rw [held]
        exact .inr ⟨inner, rfl, rfl, rfl⟩
    · rw [found, ← level, ← json, Section.loggingLeaf?, Section.loggingLeaf?]
      rcases given.logging_mapping with none | ⟨inner, held⟩
      · rw [none]
        refine .inr ⟨leaves, rfl, ?_, ?_⟩
        · exact Option.or_none.symm
        · exact Option.or_none.symm
      · rw [held]
        refine .inr ⟨overlay inner leaves, rfl, ?_, ?_⟩
        · rw [field_overlay inner leaves apart, level, texts_over]
        · rw [field_overlay inner leaves apart, json, texts_over]

/-! ## Files -/

-- The two layouts of a file: the section is all of the document, or stands in it by its name.
inductive Holds (given : Section) : Value → Prop
  | whole (unnamed : Value.field? given.entries sectionName = none) :
      Holds given (.mapping given.entries)
  | named (others : Value.Entries)
      (found : Value.field? others sectionName = some (.mapping given.entries)) :
      Holds given (.mapping others)

theorem held_keyed (given : Section) (document : Value) (holds : Holds given document)
    (keyed : document.Keyed) : Value.Keyed (.mapping given.entries) := by
  cases holds with
  | whole => exact keyed
  | named others found => exact Value.keyed_field others keyed sectionName _ found

theorem read_file_keyed (content : Bytes) (document : Value)
    (read : readFile content = .ok document) : document.Keyed := by
  rw [readFile] at read
  split at read
  · cases read
  · exact Yaml.read_keyed _ document read

theorem entries_of_held (given : Section) (document : Value) (holds : Holds given document) :
    entriesOf document = .ok given.entries := by
  cases holds with
  | whole unnamed =>
      have shown : (if (Value.mapping given.entries).isVoid then .mapping []
          else .mapping given.entries) = Value.mapping given.entries := by
        cases given.entries <;> rfl
      rw [entriesOf, shown]
      simp only [unnamed]
  | named others found =>
      have shown : (Value.mapping others).isVoid = false := by
        cases others with
        | nil => cases found
        | cons entry rest => rfl
      rw [entriesOf, shown]
      simp only [Bool.false_eq_true, if_false, found]

-- Of a key that stood among the entries twice, both values would be laid over each other.
theorem make_layers (given : Section) (distinct : Value.Distinct given.entries)
    (around : Surroundings) (only : around.environment.OnlyLeaves) :
    make given.entries around = (chosen around.environment given).check.asRecord modelName := by
  obtain ⟨told, read, tells⟩ := environment_told around.environment only
  have texts : ¬ (given.entries.any fun entry => !isText entry.1) = true := by
    intro other
    obtain ⟨entry, member, refused⟩ := List.any_eq_true.mp other
    obtain ⟨field, _, rfl⟩ := given.mem_entries entry member
    cases refused
  have unowned : ¬ (Value.field? given.entries ownName).isSome = true := by
    rw [given.own_name_absent _ rfl]
    exact Bool.false_ne_true
  have sources : Environment.Options.given? given.entries "_build_sources" = none :=
    given.option_absent _ rfl
  rw [make, if_neg texts]
  simp only [if_neg unowned, sources]
  rw [merged_layers given around told read, ← check_layers given distinct around.environment told
    tells]
  rfl

-- A file that holds a section, in an environment without further settings.
structure Configured (path : Text) (around : Surroundings) (given : Section) : Prop where
  place : around.place path = .ok (some .document)
  file : ∃ content document, around.document = some content ∧ readFile content = .ok document ∧
    Holds given document
  only : around.environment.OnlyLeaves

theorem load_layers (path : Text) (around : Surroundings) (given : Section)
    (configured : Configured path around given) :
    load path around = (chosen around.environment given).check.asRecord modelName := by
  obtain ⟨content, document, held, read, holds⟩ := configured.file
  have loaded : load path around = ofContent content around := by
    rw [load, configured.place]
    change ofContent (around.document.getD []) around = _
    rw [held]
    rfl
  rw [loaded, ofContent, read]
  change (entriesOf document >>= _) = _
  rw [entries_of_held given document holds]
  have keyed := held_keyed given document holds (read_file_keyed content document read)
  exact make_layers given (given.entries_distinct keyed) around configured.only

-- A chosen value has to pass the check of its leaf, and without one the leaf has its default.
def Reads {α : Type} (read : Value → Checked α) (default : α) (value : Option Value) (result : α) :
    Prop :=
  match value with
  | some value => read value = .ok result
  | none => result = default

structure Leaves.Validate (leaves : Leaves) (settings : Settings) : Prop where
  chain : Reads chainField .mainnet leaves.chain settings.chain
  level : Reads LoggingConfig.levelField LoggingConfig.default.level leaves.level
    settings.logging.level
  jsonOutput : Reads boolField LoggingConfig.default.jsonOutput leaves.jsonOutput
    settings.logging.jsonOutput

theorem leaf_ok_iff {α : Type} (name : Text) (default : α) (read : Value → Checked α)
    (value : Option Value) (result : α) :
    leaf name default read value = .ok result ↔ Reads read default value result := by
  cases value with
  | none => exact ⟨fun same => (Except.ok.inj same).symm, fun same => congrArg Except.ok same.symm⟩
  | some value => exact checked_under_ok_iff name (read value) result

theorem leaves_check_ok_iff (leaves : Leaves) (settings : Settings) :
    leaves.check = .ok settings ↔ leaves.Validate settings := by
  obtain ⟨chain, level, jsonOutput⟩ := settings
  rw [Leaves.check, checkLogging, map_ok_iff]
  simp only [checked_both_ok_iff, checked_under_ok_iff, map_ok_iff, leaf_ok_iff]
  constructor
  · rintro ⟨⟨_, _⟩, ⟨chainRead, ⟨_, _⟩, ⟨levelRead, jsonRead⟩, rfl⟩, same⟩
    cases same
    exact ⟨chainRead, levelRead, jsonRead⟩
  · rintro ⟨chainRead, levelRead, jsonRead⟩
    exact ⟨(chain, ⟨level, jsonOutput⟩),
      ⟨chainRead, (level, jsonOutput), ⟨levelRead, jsonRead⟩, rfl⟩, rfl⟩

/-! ## A recorded file -/

mutual

-- Values that may hold a fraction cannot be compared as such; these here can.
def alike : Value → Value → Bool
  | .bool a, .bool b => a == b
  | .text a, .text b => a == b
  | .list [], .list [] => true
  | .mapping entries, .mapping others => alikeEntries entries others
  | _, _ => false

def alikeEntries : Value.Entries → Value.Entries → Bool
  | [], [] => true
  | (key, value) :: rest, (otherKey, otherValue) :: others =>
    alike key otherKey && alike value otherValue && alikeEntries rest others
  | _, _ => false

end

mutual

theorem alike_same (value other : Value) (same : alike value other = true) : value = other := by
  cases value with
  | bool a => cases other <;> simp_all [alike]
  | text a => cases other <;> simp_all [alike]
  | list items =>
      cases items with
      | nil =>
          cases other with
          | list others => cases others <;> simp_all [alike]
          | _ => cases same
      | cons item rest => cases other <;> cases same
  | mapping entries =>
      cases other with
      | mapping others =>
          rw [alike] at same
          rw [alike_entries_same entries others same]
      | _ => cases same
  | _ => cases same

theorem alike_entries_same (entries others : Value.Entries)
    (same : alikeEntries entries others = true) : entries = others := by
  cases entries with
  | nil =>
      cases others with
      | nil => rfl
      | cons entry rest => cases same
  | cons entry rest =>
      cases others with
      | nil => cases same
      | cons other others =>
          rw [alikeEntries, Bool.and_eq_true, Bool.and_eq_true] at same
          obtain ⟨⟨key, value⟩, later⟩ := same
          rw [alike_entries_same rest others later,
            Prod.ext (alike_same _ _ key) (alike_same _ _ value)]

end

theorem answer_alike (answer : Except Fault Value) (value : Value)
    (same : answer.toOption.any (fun told => alike told value) = true) : answer = .ok value := by
  cases answer with
  | error fault => cases same
  | ok told => exact congrArg Except.ok (alike_same told value same)

def recordedSection : Section where
  fields := [("chain", .text "nowhere"),
    ("logging", .fields [("json_output", .bool false), ("colour", .bool true)])]
  plain := by decide +kernel
  nested := by
    intro field member named
    simp only [List.mem_cons, List.not_mem_nil, or_false] at member
    rcases member with rfl | rfl
    · exact absurd named (by decide +kernel)
    · exact ⟨_, rfl⟩

def recordedDocument : Value :=
  .fields [("other", .text "text"), ("cbsigner", .mapping recordedSection.entries)]

-- The section has one key twice, and only what stands there last counts.
def recordedText : Text :=
  Text.ofString "other: text\ncbsigner:\n  chain: nowhere\n  logging: \x7blevel: x\x7d\n" ++
    Text.ofString "  logging: \x7bjson_output: off, colour: on\x7d\n"

def recordedFile : Bytes := recordedText.map fun point => UInt8.ofNat point.code

def recordedSurroundings : Surroundings :=
  ⟨[("HOME", "text"), ("CBSIGNER_CHAIN", " Sepolia "), ("CBSIGNER_LOGGING__JSON_OUTPUT", "on")],
    some recordedFile⟩

/-! ## Layers -/

structure Layered (path : Text) (around : Surroundings) (given : Section) : Prop where
  outcome : load path around = (chosen around.environment given).check.asRecord modelName
  loads : ∀ settings, load path around = .ok settings ↔
    (chosen around.environment given).Validate settings
  alike : ∀ otherPath otherAround otherGiven, Configured otherPath otherAround otherGiven →
    chosen otherAround.environment otherGiven = chosen around.environment given →
      load otherPath otherAround = load path around

theorem layers_exact (path : Text) (around : Surroundings) (given : Section)
    (configured : Configured path around given) : Layered path around given where
  outcome := load_layers path around given configured
  loads settings := by
    rw [load_layers path around given configured, as_record_ok_iff, leaves_check_ok_iff]
  alike otherPath otherAround otherGiven otherConfigured same := by
    rw [load_layers path around given configured,
      load_layers otherPath otherAround otherGiven otherConfigured, same]

-- The chain of the section is none, and does not matter.
theorem recorded_layers_exact :
    Configured defaultPath recordedSurroundings recordedSection ∧
      load defaultPath recordedSurroundings = .ok ⟨.sepolia, ⟨"INFO", true⟩⟩ := by
  have read : readFile recordedFile = .ok recordedDocument :=
    answer_alike _ _ (by decide +kernel)
  have configured : Configured defaultPath recordedSurroundings recordedSection :=
    ⟨ok_of_to_option _ (some Place.document) (by decide +kernel),
      ⟨recordedFile, recordedDocument, rfl, read, .named _ rfl⟩, by decide +kernel⟩
  have layered := layers_exact defaultPath recordedSurroundings recordedSection configured
  have chain : recordedSurroundings.environment.text? chainVariable =
      some (Text.ofString " Sepolia ") := by decide +kernel
  have level : recordedSurroundings.environment.text? levelVariable = none := by decide +kernel
  have json : recordedSurroundings.environment.text? jsonVariable = some (Text.ofString "on") := by
    decide +kernel
  refine ⟨configured, (layered.loads _).mpr ⟨?_, ?_, ?_⟩⟩
  · rw [chosen, chain]
    exact ok_of_to_option _ Chain.sepolia (by decide +kernel)
  · rw [chosen, level]
    rfl
  · rw [chosen, json]
    exact ok_of_to_option _ true (by decide +kernel)

end Settings

end KeyCustody
