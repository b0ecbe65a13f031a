import KeyCustody.Config.Logging
import KeyCustody.Json.Reader
import KeyCustody.Json.Writer

set_option autoImplicit false

namespace KeyCustody

inductive Model where
  | delegation
  | signedDelegation
  | logging
deriving DecidableEq

namespace Model

def all : List Model := [delegation, signedDelegation, logging]

def name : Model → String
  | delegation => Delegation.modelName
  | signedDelegation => SignedDelegation.modelName
  | logging => LoggingConfig.modelName

def ofName? (text : Text) : Option Model := all.find? fun model => Text.ofString model.name = text

end Model

inductive Record where
  | delegation (d : Delegation)
  | signedDelegation (d : SignedDelegation)
  | logging (config : LoggingConfig)
deriving DecidableEq

namespace Record

def model : Record → Model
  | delegation _ => .delegation
  | signedDelegation _ => .signedDelegation
  | logging _ => .logging

def check (model : Model) (origin : Origin) (value : Value) : Checked Record :=
  match model with
  | .delegation => (Delegation.check origin value).map delegation
  | .signedDelegation => (SignedDelegation.check origin value).map signedDelegation
  | .logging => (LoggingConfig.check origin value).map logging

def ofValue (model : Model) (value : Value) : Except Fault Record :=
  (check model .value value).asRecord model.name

def ofJson (model : Model) (text : Text) : Except Fault Record :=
  let checked := match text.chars? with
    | none => Checked.fail .badUtf8
    | some chars =>
      match Json.read? Json.strict chars with
      | some value => check model .json value
      | none => Checked.fail .malformedJson
  checked.asRecord model.name

def toValue : Record → Value
  | delegation d => d.toValue
  | signedDelegation d => d.toValue
  | logging config => config.toValue

def spelled : Record → Value
  | delegation d => d.spelled
  | signedDelegation d => d.spelled
  | logging config => config.toValue

def json (record : Record) : String := Json.render Json.compact record.toValue

def reloads (record : Record) : Bool :=
  let same (read : Except Fault Record) : Bool :=
    match read with
    | .ok other => other = record
    | .error _ => false
  same (ofValue record.model record.toValue) && same (ofJson record.model record.json)

end Record

end KeyCustody
