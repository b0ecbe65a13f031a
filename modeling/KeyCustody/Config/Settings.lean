import KeyCustody.Chain
import KeyCustody.Config.Arguments
import KeyCustody.Config.EntryFile
import KeyCustody.Config.Logging
import KeyCustody.Config.Path
import KeyCustody.Json.Reader
import KeyCustody.Json.Writer
import KeyCustody.Text.Lines
import KeyCustody.Value.Dictionary

/-! Several sources lie over each other, leaf by leaf, and the outcome is checked as one record. -/

set_option autoImplicit false

namespace KeyCustody

def overlay : Value.Entries → Value.Entries → Value.Entries
  | lower, [] => lower
  | lower, (.text name, .mapping upper) :: rest =>
    match Value.field? lower name with
    | some (.mapping inner) =>
      overlay (Value.put lower name (.mapping (overlay inner upper))) rest
    | _ => overlay (Value.put lower name (.mapping upper)) rest
  | lower, (.text name, value) :: rest => overlay (Value.put lower name value) rest
  | lower, entry :: rest => overlay (lower ++ [entry]) rest
termination_by _ upper => upper

structure Settings where
  chain : Chain
  logging : LoggingConfig
deriving DecidableEq

namespace Settings

def modelName : String := "SignerSettings"

def alignNames (entries : Value.Entries) : Value.Entries :=
  entries.foldl (fun aligned entry =>
    match entry with
    | (.text name, value) =>
      let lowered := Text.lower name
      let known := LoggingConfig.default.fields.any fun field => field.1 = lowered
      Value.put aligned (if known then lowered else name) value
    | entry => aligned ++ [entry]) []

def sectionOf (options : Environment.Options) (entries : Value.Entries) : Value :=
  .mapping (if options.caseSensitive then entries else alignNames entries)

-- The characters of a JSON text. Halves of surrogate pairs stand for themselves in it, as their
-- escapes do.
def jsonChars (text : Text) : List Char :=
  text.flatMap fun point =>
    match point with
    | .char c => [c]
    | point => Json.escape point

structure Source where
  name : String
  options : Environment.Options
  seen : Value.Entries

def Source.logging (source : Source) (name : Text) : Except Fault (Option Value) :=
  match Value.field? source.seen name with
  | some (.text text) =>
    match Json.read Json.lenient (jsonChars text) with
    | .error .malformed => .error (.sourceText "logging" source.name)
    | .error .deepList => .error (.tooDeep .jsonList)
    | .error .deepMapping => .error (.tooDeep .jsonMapping)
    | .ok .null => .ok none
    | .ok (.mapping entries) => do
      let leaves ← Environment.nested source.options name source.seen
      return some (sectionOf source.options (overlay (Value.dictionary entries) leaves))
    | .ok value => .ok (some value)
  | some value => .ok (some value)
  | none => do
    match ← Environment.nested source.options name source.seen with
    | [] => return none
    | leaves => return some (sectionOf source.options leaves)

def Source.entries (source : Source) : Except Fault Value.Entries := do
  match source.options.leading with
  | none => throw (.sourceValue "chain" source.name)
  | some leading =>
    let nameOf (field : Text) : Text := source.options.foldName (leading ++ field)
    let chain := Value.field? source.seen (nameOf "chain")
    let logging ← source.logging (nameOf "logging")
    let entry (name : Text) (value : Option Value) : Value.Entries :=
      (value.map fun value => (Value.text name, value)).toList
    return entry "chain" chain ++ entry "logging" logging

def chainField : Value → Checked Chain
  | .text s =>
    match Chain.read? s with
    | some chain => .ok chain
    | none => Checked.fail (.chainName s)
  | .bytes b | .buffer b =>
    match (Text.ofUtf8? b).bind Chain.ofName? with
    | some chain => .ok chain
    | none => Checked.fail .notChain
  | _ => Checked.fail .notChain

def loggingField : Value → Checked LoggingConfig := LoggingConfig.check .value

def check (entries : Value.Entries) : Checked Settings :=
  (Checked.both (optional entries "chain" .mainnet chainField)
    (optional entries "logging" .default loggingField)).map fun (chain, logging) =>
      ⟨chain, logging⟩

def isText : Value → Bool
  | .text _ => true
  | _ => false

def ownName : String := "__pydantic_self__"

def plainOption : Text := "_nested_model_default_partial_update"

def plainEntries (given : Value.Entries) : Value.Entries :=
  given.map fun (name, value) =>
    (name, match value with
      | .delegation d => d.toValue
      | value => value)

structure Surroundings where
  environment : Environment
  document : Option Bytes

def Surroundings.place (around : Surroundings) (path : Text) : Except Fault (Option Place) :=
  let path := FilePath.ofText path
  match Place.find around.document.isSome path with
  | .found place => .ok (some place)
  | .missing => .ok none
  | .tooLong => .error (.longPath path.text)

def Surroundings.lines (around : Surroundings) : List Char :=
  Text.unifyLines ((around.document.bind Text.decodeUtf8?).getD [])

def fileVariables (given : Value.Entries) (around : Surroundings) :
    Except Fault EntryFile.Variables := do
  let paths ← Environment.Options.paths given "_env_file"
  paths.foldlM (fun known path => do
    match ← around.place path with
    | some .document => return known ++ EntryFile.variablesOf around.environment around.lines
    | _ => return known) []

def visibleVariables (options : Environment.Options) (known : EntryFile.Variables) :
    Value.Entries :=
  let fields := match options.leading with
    | some leading =>
      [options.foldName (leading ++ "chain"), options.foldName (leading ++ "logging")]
    | none => []
  known.foldl (fun entries (name, value) =>
    match value with
    | some text => options.addEntry entries name text
    | none =>
      let name := options.foldName name
      if fields.contains name then entries.filter fun entry => !entry.1.isText name
      else Value.put entries name .null) []

def checkSecrets (given : Value.Entries) (around : Surroundings) : Except Fault Unit := do
  let paths ← Environment.Options.paths given "_secrets_dir"
  let places ← paths.mapM around.place
  places.forM fun place =>
    match place with
    | some .document => .error (.secretsPlace "file")
    | some .nothing => .error (.secretsPlace "char device")
    | _ => .ok ()

def argumentRules (given : Value.Entries) : Arguments.Rules :=
  let isOn := Environment.Options.isOn given
  let wholeSections := !isOn "_cli_avoid_json"
  ⟨isOn "_case_sensitive", wholeSections, isOn "_cli_ignore_unknown_args",
    (Environment.Options.given? given "_cli_exit_on_error").all fun value => !value.isVoid,
    match Environment.Options.given? given "_cli_parse_none_str" with
    | some (.text word) => word
    | _ => if wholeSections then "null" else "None"⟩

def merged (given : Value.Entries) (around : Surroundings) : Except Fault Value.Entries := do
  let options ← Environment.Options.readAll given
  let known ← fileVariables given around
  let rules := argumentRules given
  let arguments ← Arguments.entries rules (← Environment.Options.arguments given)
  let argumentOptions := Arguments.options rules
  let first ← Source.entries
    ⟨"CliSettingsSource", argumentOptions, argumentOptions.visible arguments⟩
  let second ← Source.entries ⟨"EnvSettingsSource", options, options.visible around.environment⟩
  let third := if Environment.Options.isOn given plainOption then plainEntries given else given
  let last ← Source.entries ⟨"DotEnvSettingsSource", options, visibleVariables options known⟩
  checkSecrets given around
  return overlay (overlay (overlay last third) second) first

def make (given : Value.Entries) (around : Surroundings) : Except Fault Settings := do
  if given.any fun entry => !isText entry.1 then throw .fieldNames
  if (Value.field? given ownName).isSome then throw (.option (.givenTwice ownName))
  let entries ← match Environment.Options.given? given "_build_sources" with
    | none => merged given around
    | some sources => do
      Environment.Options.checkSources sources
      pure []
  (check entries).asRecord modelName

end Settings

end KeyCustody
