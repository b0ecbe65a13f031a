import KeyCustody.Delegation
import KeyCustody.Text.Utf8

set_option autoImplicit false

namespace KeyCustody

def optional {α : Type} (entries : Value.Entries) (name : Text) (default : α)
    (read : Value → Checked α) : Checked α :=
  match Value.field? entries name with
  | some value => Checked.under name (read value)
  | none => .ok default

def textField : Value → Checked Text
  | .text s => .ok s
  | .bytes b | .buffer b =>
    match Text.ofUtf8? b with
    | some s => .ok s
    | none => Checked.fail .badUtf8
  | _ => Checked.fail .notText

def falseWords : List String := ["0", "off", "f", "false", "n", "no"]

def trueWords : List String := ["1", "on", "t", "true", "y", "yes"]

def boolOfText? (text : List Char) : Option Bool :=
  let word := String.ofList (text.map Char.toLower)
  if falseWords.contains word then some false
  else if trueWords.contains word then some true
  else none

def boolOfInt? (n : Int) : Option Bool :=
  if n = 0 then some false else if n = 1 then some true else none

def wordBound : Int := 0x8000000000000000

def fitsWord (n : Int) : Bool := -wordBound ≤ n && n < wordBound

def clearBool (answer : Option Bool) : Checked Bool :=
  match answer with
  | some b => .ok b
  | none => Checked.fail .unclearBool

def boolField : Value → Checked Bool
  | .bool b => .ok b
  | .text s =>
    match s.chars? with
    | some chars => clearBool (boolOfText? chars)
    | none => Checked.fail .badUtf8
  | .bytes b => clearBool ((Text.decodeUtf8? b).bind boolOfText?)
  | .int n => if fitsWord n then clearBool (boolOfInt? n) else Checked.fail .notBool
  | .float x =>
    match Decimal.truncate? x with
    | some n =>
      if Decimal.isIntegral x && -wordBound < n && n < wordBound then clearBool (boolOfInt? n)
      else Checked.fail .notBool
    | none => Checked.fail .notBool
  | _ => Checked.fail .notBool

structure LoggingConfig where
  level : Text
  jsonOutput : Bool
deriving DecidableEq

namespace LoggingConfig

def modelName : String := "LoggingConfig"

def default : LoggingConfig := ⟨"INFO", false⟩

def levelNames : List Text := ["DEBUG", "INFO", "WARNING", "ERROR", "CRITICAL"]

def normalLevel? (text : Text) : Option Text :=
  let name := Text.upper (Text.strip text)
  if levelNames.contains name then some name else none

def levelField (value : Value) : Checked Text := do
  let text ← textField value
  match normalLevel? text with
  | some name => .ok name
  | none => Checked.fail (.levelName text)

def check (origin : Origin) : Value → Checked LoggingConfig
  | .mapping entries =>
    (Checked.both (optional entries "level" default.level levelField)
      (optional entries "json_output" default.jsonOutput boolField)).map fun (level, jsonOutput) =>
        ⟨level, jsonOutput⟩
  | _ => notRecord origin modelName

def ofValue (value : Value) : Except Fault LoggingConfig := (check .value value).asRecord modelName

def fields (config : LoggingConfig) : List (Text × Value) :=
  [("level", .text config.level), ("json_output", .bool config.jsonOutput)]

def toValue (config : LoggingConfig) : Value := .fields config.fields

end LoggingConfig

end KeyCustody
