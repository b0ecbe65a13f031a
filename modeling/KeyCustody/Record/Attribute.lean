import KeyCustody.Record

/-!
Setting attributes of records. Delegations do not change, and the logging section takes any value
unchecked.
-/

set_option autoImplicit false

namespace KeyCustody.Record

def classNames : List Text :=
  ["__class_vars__", "__private_attributes__", "__signature__", "__pydantic_complete__",
    "__pydantic_core_schema__", "__pydantic_custom_init__", "__pydantic_decorators__",
    "__pydantic_generic_metadata__", "__pydantic_parent_namespace__", "__pydantic_post_init__",
    "__pydantic_root_model__", "__pydantic_serializer__", "__pydantic_validator__",
    "__pydantic_fields__", "__pydantic_computed_fields__", "__pydantic_setattr_handlers__"]

def reportNames : List Text := ["model_extra", "model_fields_set"]

def isOwnName (name : Text) : Bool :=
  name.head? = some (.char '_') && name != Text.ofString "__root__"

def fieldNames : Record → List Text
  | delegation _ => ["delegator", "proxy"]
  | signedDelegation _ => ["message", "signature"]
  | logging _ => ["level", "json_output"]

def shown (record : Record) (entries : Value.Entries) : Value :=
  .mapping (entries.filter fun entry => record.fieldNames.any fun name => entry.1.isText name)

def assignOwn (record : Record) (name : Text) (value : Value) : Except Fault Value :=
  let model := record.model.name
  if classNames.contains name then .error (.ownAttribute (.classVariable model name))
  else if name = Text.ofString "__class__" then .error (.ownAttribute (.notClass value.fullKind))
  else if name = Text.ofString "__dict__" then
    match value with
    | .mapping entries => .ok (record.shown entries)
    | value => .error (.ownAttribute (.notDictionary value.fullKind))
  else if name = Text.ofString "__weakref__" then
    .error (.ownAttribute (.notWritable model name))
  else if name = Text.ofString "__fields_set__" then .error (.ownAttribute (.noSetter model name))
  else .ok record.toValue

def assignField (config : LoggingConfig) (name : Text) (value : Value) : Except Fault Value :=
  let model := LoggingConfig.modelName
  if reportNames.contains name then .error (.ownAttribute (.noSetter model name))
  else if config.fields.any fun entry => entry.1 = name then
    .ok (.fields (config.fields.map fun entry => if entry.1 = name then (name, value) else entry))
  else .error (.noField model name)

def assign (record : Record) (name : Text) (value : Value) : Except Fault Value :=
  if isOwnName name then record.assignOwn name value
  else
    match record with
    | logging config => assignField config name value
    | record =>
      if name.any (·.isHalf) then .error (.unencodable name)
      else .error (.invalid record.model.name [⟨[name], .frozen⟩])

end KeyCustody.Record
