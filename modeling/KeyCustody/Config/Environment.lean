import KeyCustody.Fault
import KeyCustody.Text.Case
import KeyCustody.Text.Split

/-! The environment of a process, and the options that decide how settings are read from it. -/

set_option autoImplicit false

namespace KeyCustody

abbrev Environment := List (Text × Text)

namespace Environment

def bytesOf (text : Text) : Except Fault Bytes :=
  match Text.escapedUtf8? text with
  | some bytes => .ok bytes
  | none => .error (.environment (.unencodable text))

-- An entry goes through bytes, where no zero may stand, and an equals sign would end the name.
def entryOf (name value : Text) : Except Fault (Text × Text) := do
  let nameBytes ← bytesOf name
  let valueBytes ← bytesOf value
  if nameBytes.contains 0 || valueBytes.contains 0 then throw (.environment .nullByte)
  if name.contains (.char '=') then throw (.environment .equalsSign)
  if name.isEmpty then throw (.environment .noName)
  return (Text.ofBytes nameBytes, Text.ofBytes valueBytes)

def ofEntries (entries : List (Text × Text)) : Except Fault Environment :=
  entries.mapM fun entry => entryOf entry.1 entry.2

inductive Nesting where
  | none
  | mark (text : Text)
  | foreign (value : Value)

inductive PartLimit where
  | unlimited
  | splits (n : Nat)
  | fraction

structure Options where
  leading : Option Text
  caseSensitive : Bool
  ignoreEmpty : Bool
  nesting : Nesting
  partLimit : PartLimit
  noneText : Option Text

namespace Options

def given? (entries : Value.Entries) (name : Text) : Option Value :=
  match Value.field? entries name with
  | some .null => Option.none
  | option => option

def isOn (entries : Value.Entries) (name : Text) : Bool :=
  (given? entries name).any fun value => !value.isVoid

-- One part is split off less than there may be; nothing, and less than one, mean no limit.
def partLimitOf (n : Int) : PartLimit := if 1 ≤ n then .splits (n - 1).toNat else .unlimited

def readPartLimit (entries : Value.Entries) : Except Fault PartLimit :=
  match given? entries "_env_nested_max_split" with
  | none => .ok .unlimited
  | some value =>
    if value.isVoid then .ok .unlimited
    else
      match value with
      | .bool _ => .ok (partLimitOf 1)
      | .int n => .ok (partLimitOf n)
      | .float _ => .ok .fraction
      | value => .error (.option (.noDifference value.fullKind))

def defaultLeading : Text := "CBSIGNER_"

def readLeading (entries : Value.Entries) : Except Fault (Option Text) :=
  match given? entries "_env_prefix" with
  | none => .ok (some defaultLeading)
  | some (.text leading) => .ok (some leading)
  | some (.bytes _) | some (.buffer _) | some (.list _) | some (.tuple _) | some (.set _)
  | some (.mapping _) => .ok none
  | some value => .error (.option (.noLength value.fullKind))

def readNesting (entries : Value.Entries) : Nesting :=
  match given? entries "_env_nested_delimiter" with
  | none => .mark "__"
  | some value =>
    if value.isVoid then .none
    else
      match value with
      | .text mark => .mark mark
      | value => .foreign value

def readNoneText (entries : Value.Entries) : Option Text :=
  match given? entries "_env_parse_none_str" with
  | some (.text word) => some word
  | _ => none

def readAll (entries : Value.Entries) : Except Fault Options := do
  let partLimit ← readPartLimit entries
  let leading ← readLeading entries
  return ⟨leading, isOn entries "_case_sensitive", isOn entries "_env_ignore_empty",
    readNesting entries, partLimit, readNoneText entries⟩

def members (value : Value) : Except Fault (List Value) :=
  match value.members? with
  | some members => .ok members
  | none => .error (.option (.notIterable value.fullKind))

def paths (entries : Value.Entries) (name : Text) : Except Fault (List Text) :=
  match given? entries name with
  | none => .ok []
  | some (.text path) => .ok [path]
  | some value => do
    (← members value).mapM fun member =>
      match member with
      | .text path => .ok path
      | member => .error (.option (.notPath member.kind))

def isZero : Value → Bool
  | .int n => n = 0
  | .float x => x == 0
  | _ => false

def arguments (entries : Value.Entries) : Except Fault (List Value) :=
  match given? entries "_cli_parse_args" with
  | some (.list arguments) | some (.tuple arguments) => .ok arguments
  | none | some (.bool _) => .ok []
  | some value => if isZero value then .ok [] else .error (.argumentList value.homeKind)

-- Sources take the place of all entries. They come in a pair with something that is not looked at,
-- and no value is one.
def checkSources (pair : Value) : Except Fault Unit := do
  match pair.members? with
  | none => throw (.option (.notPair pair.fullKind))
  | some [sources, _] =>
    if !sources.isVoid then
      match ← members sources with
      | source :: _ => throw (.option (.notCallable source.fullKind))
      | [] => return
  | some members =>
    throw (.option (if members.length < 2 then .shortPair members.length else .longPair))

def foldName (options : Options) (name : Text) : Text :=
  if options.caseSensitive then name else Text.lower name

def addEntry (options : Options) (entries : Value.Entries) (name text : Text) : Value.Entries :=
  if options.ignoreEmpty && text.isEmpty then entries
  else
    Value.put entries (options.foldName name)
      (if options.noneText = some text then .null else .text text)

def visible (options : Options) (env : Environment) : Value.Entries :=
  env.foldl (fun entries (name, text) => options.addEntry entries name text) []

end Options

-- A value that stands where the path goes on keeps its place, and so does one where the environment
-- says that there is none.
def storeUnder (value : Value) : Text → List Text → Value.Entries → Value.Entries
  | name, [], entries =>
    match value, Value.field? entries name with
    | .null, some (.mapping []) => Value.put entries name .null
    | .null, some _ => entries
    | value, _ => Value.put entries name value
  | name, next :: rest, entries =>
    match Value.field? entries name with
    | none => Value.put entries name (.mapping (storeUnder value next rest []))
    | some (.mapping inner) =>
      Value.put entries name (.mapping (storeUnder value next rest inner))
    | some _ => entries

def behind? (start name : Text) : Option Text :=
  if start.isPrefixOf name then some (name.drop start.length) else none

def namesBehind (start : Text) (seen : Value.Entries) : List (Text × Value) :=
  seen.filterMap fun entry =>
    match entry.1 with
    | .text name => (behind? start name).map fun rest => (rest, entry.2)
    | _ => none

def storeAll (split : Text → List Text) (found : List (Text × Value)) : Value.Entries :=
  found.foldl (fun entries (rest, value) =>
    match split rest with
    | first :: others => storeUnder value first others entries
    | [] => entries) []

def nested (options : Options) (sectionName : Text) (seen : Value.Entries) :
    Except Fault Value.Entries :=
  match options.nesting with
  | .none => .ok []
  | .mark mark =>
    let found := namesBehind (sectionName ++ mark) seen
    match options.partLimit, found with
    | _, [] => .ok []
    | .fraction, _ => .error (.option (.notInteger "float"))
    | .splits n, found => .ok (storeAll (Text.split mark (some n)) found)
    | .unlimited, found => .ok (storeAll (Text.split mark none) found)
  | .foreign value =>
    match options.partLimit, namesBehind (sectionName ++ value.display) seen with
    | _, [] => .ok []
    | .fraction, _ => .error (.option (.notInteger "float"))
    | _, _ => .error (.option (.notText value.fullKind))

end Environment

end KeyCustody
