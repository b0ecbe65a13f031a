import KeyCustody.Chain
import KeyCustody.Text.Utf8
import KeyCustody.Value.Literal

/-! Everything that can be refused, by cause, and the wording of each refusal. -/

set_option autoImplicit false

namespace KeyCustody

inductive BytesFault where
  | notHex (text : Text)
  | notBytes (kind : String)
  | wrongLength (expected actual : Nat)
deriving DecidableEq

def BytesFault.message : BytesFault → Text
  | notHex text => "invalid hex string: " ++ text.take 12 ++ "..."
  | notBytes kind => "expected bytes or hex string, got " ++ kind
  | wrongLength expected actual =>
    "expected " ++ toString expected ++ " bytes, got " ++ toString actual

def unknownChainText (value : Value) : Text :=
  Text.ofChars value.literal ++ " is not a valid Chain"

inductive FieldCause where
  | missing
  | notRecord (model : String)
  | notObject
  | malformedJson
  | frozen
  | bytes (cause : BytesFault)
  | chainName (text : Text)
  | notChain
  | levelName (text : Text)
  | notText
  | badUtf8
  | unclearBool
  | notBool

namespace FieldCause

def code : FieldCause → String
  | missing => "missing"
  | notRecord _ | notObject => "model_type"
  | malformedJson => "json_invalid"
  | frozen => "frozen_instance"
  | bytes _ | chainName _ | levelName _ => "value_error"
  | notChain => "enum"
  | notText => "string_type"
  | badUtf8 => "string_unicode"
  | unclearBool => "bool_parsing"
  | notBool => "bool_type"

def objection? : FieldCause → Option Text
  | bytes cause => some cause.message
  | chainName text => some (unknownChainText (.text text))
  | levelName text => some ("unknown log level: " ++ text)
  | _ => none

def message? (cause : FieldCause) : Option Text :=
  match cause with
  | missing => some "Field required"
  | notRecord model => some ("Input should be a valid dictionary or instance of " ++ model)
  | notObject => some "Input should be an object"
  | malformedJson => none
  | frozen => some "Instance is frozen"
  | bytes _ | chainName _ | levelName _ =>
    cause.objection?.map fun objection => "Value error, " ++ objection
  | notChain => some "Input should be 'mainnet', 'holesky', 'sepolia' or 'helder'"
  | notText => some "Input should be a valid string"
  | badUtf8 => some "Input should be a valid string, unable to parse raw data as a unicode string"
  | unclearBool => some "Input should be a valid boolean, unable to interpret input"
  | notBool => some "Input should be a valid boolean"

end FieldCause

structure FieldFault where
  path : List Text
  cause : FieldCause

inductive Role where
  | unspecified
  | consensus
  | proxy
deriving DecidableEq

def Role.refusalText : Role → String
  | unspecified => "sign_error"
  | consensus => "unknown consensus signer"
  | proxy => "unknown proxy signer"

structure Refusal where
  role : Role
  pubkey : Bytes
deriving DecidableEq

def Refusal.message (refusal : Refusal) : String :=
  refusal.role.refusalText ++ ": " ++ Hex.render refusal.pubkey

inductive ScalarFault where
  | notInteger (text : Text) (base : Nat)
  | notFloat (text : Text)
  | largeUnit
  | emptyNumber
  | unknownBool (text : Text)
  | character
  | largeCharacter
  | notTime
  | timeShape
  | month
  | day
  | hour
  | minute
  | second
  | year (n : Nat)
  | offset (days seconds : Int)
deriving DecidableEq

def ScalarFault.message : ScalarFault → String
  | notInteger text base =>
    "invalid literal for int() with base " ++ toString base ++ ": " ++
      String.ofList ((Value.quoted text).take 200)
  | notFloat text =>
    "could not convert string to float: " ++ String.ofList (Value.quoted text)
  | largeUnit => "int too large to convert to float"
  | emptyNumber => "string index out of range"
  | unknownBool text => String.ofList (Value.quoted text)
  | character => "chr() arg not in range(0x110000)"
  | largeCharacter => "Python int too large to convert to C int"
  | timeShape => "expected string or bytes-like object, got 'list'"
  | notTime => "'NoneType' object has no attribute 'groupdict'"
  | month => "month must be in 1..12"
  | day => "day is out of range for month"
  | hour => "hour must be in 0..23"
  | minute => "minute must be in 0..59"
  | second => "second must be in 0..59"
  | year n => "year " ++ toString n ++ " is out of range"
  | offset days seconds =>
    "offset must be a timedelta strictly between -timedelta(hours=24) and " ++
      "timedelta(hours=24), not datetime.timedelta(days=" ++ toString days ++
      (if seconds = 0 then "" else ", seconds=" ++ toString seconds) ++ ")."

inductive OptionFault where
  | noLength (kind : String)
  | notInteger (kind : String)
  | noDifference (kind : String)
  | notText (kind : String)
  | notIterable (kind : String)
  | notPath (kind : String)
  | givenTwice (name : String)
  | notPair (kind : String)
  | shortPair (length : Nat)
  | longPair
  | notCallable (kind : String)
  | bytesNotText
  | notTextOrBytes (kind : String)
deriving DecidableEq

def OptionFault.message : OptionFault → String
  | noLength kind => "object of type '" ++ kind ++ "' has no len()"
  | notInteger kind => "'" ++ kind ++ "' object cannot be interpreted as an integer"
  | noDifference kind => "unsupported operand type(s) for -: '" ++ kind ++ "' and 'int'"
  | notText kind => "must be str or None, not " ++ kind
  | notIterable kind => "'" ++ kind ++ "' object is not iterable"
  | notPath kind =>
    "argument should be a str or an os.PathLike object where __fspath__ returns a str, not '" ++
      kind ++ "'"
  | givenTwice name =>
    "BaseSettings.__init__() got multiple values for argument '" ++ name ++ "'"
  | notPair kind => "cannot unpack non-iterable " ++ kind ++ " object"
  | shortPair length => "not enough values to unpack (expected 2, got " ++ toString length ++ ")"
  | longPair => "too many values to unpack (expected 2)"
  | notCallable kind => "'" ++ kind ++ "' object is not callable"
  | bytesNotText => "cannot use a string pattern on a bytes-like object"
  | notTextOrBytes kind => "expected string or bytes-like object, got '" ++ kind ++ "'"

inductive EntryFault where
  | unencodable (text : Text)
  | nullByte
  | equalsSign
  | noName
deriving DecidableEq

def EntryFault.message : EntryFault → String
  | unencodable text => Text.encodingTrouble Text.isEscape text
  | nullByte => "embedded null byte"
  | equalsSign => "illegal environment variable name"
  | noName => "[Errno 22] Invalid argument"

inductive AttributeFault where
  | notClass (kind : String)
  | notDictionary (kind : String)
  | notWritable (model : String) (name : Text)
  | noSetter (model : String) (name : Text)
  | classVariable (model : String) (name : Text)
deriving DecidableEq

def AttributeFault.message : AttributeFault → Text
  | notClass kind => "__class__ must be set to a class, not '" ++ kind ++ "' object"
  | notDictionary kind => "__dict__ must be set to a dictionary, not a '" ++ kind ++ "'"
  | notWritable model name =>
    "attribute '" ++ name ++ "' of '" ++ model ++ "' objects is not writable"
  | noSetter model name => "property '" ++ name ++ "' of '" ++ model ++ "' object has no setter"
  | classVariable model name =>
    "'" ++ name ++ "' is a ClassVar of `" ++ model ++ "` and cannot be set on an instance. " ++
      "If you want to set a value on the class, use `" ++ model ++ "." ++ name ++ " = value`."

inductive Depth where
  | document
  | jsonList
  | jsonMapping
deriving DecidableEq

def Depth.message (place : Depth) : String :=
  "maximum recursion depth exceeded" ++
    match place with
    | document => ""
    | jsonList => " while decoding a JSON array from a unicode string"
    | jsonMapping => " while decoding a JSON object from a unicode string"

inductive Fault where
  | bytes (cause : BytesFault)
  | pubkey (cause : BytesFault)
  | chunkLength (length : Nat)
  | domainParts
  | negativeSlot
  | largeSlot
  | secretLength (length : Nat)
  | secretRange
  | privateKey
  | secretKey
  | backend (kind : String)
  | unknownChain (value : Value)
  | proxyMismatch
  | refused (refusal : Refusal)
  | refusalKey (kind : String)
  | invalid (model : String) (faults : List FieldFault)
  | unencodable (text : Text)
  | noField (model : String) (field : Text)
  | ownAttribute (cause : AttributeFault)
  | scopeTags (names : List Text)
  | levelName (name : Text)
  | levelKind (value : Value)
  | sourceText (field source : String)
  | sourceValue (field source : String)
  | argumentList (kind : String)
  | arguments (objection : Text)
  | leave (status : Nat)
  | secretsPlace (kind : String)
  | option (cause : OptionFault)
  | environment (cause : EntryFault)
  | missingFile (path : Text)
  | longPath (path : Text)
  | folder
  | notUtf8
  | document
  | tooDeep (place : Depth)
  | scalar (cause : ScalarFault)
  | notMapping
  | notSection
  | fieldNames

def Fault.message? : Fault → Option Text
  | bytes cause | pubkey cause => some cause.message
  | chunkLength length => some ("chunk must be 32 bytes, got " ++ toString length)
  | domainParts => some "domain type and fork version must be 4 bytes each"
  | negativeSlot => some "can't convert negative int to unsigned"
  | largeSlot => some "int too big to convert"
  | secretLength length => some ("secret key must be 32 bytes, got " ++ toString length)
  | secretRange => some "secret key scalar is outside the curve order"
  | privateKey => some "Invalid private key"
  | secretKey => some "Invalid secret key"
  | backend kind => some ("unsupported signer backend: " ++ kind)
  | unknownChain value => some (unknownChainText value)
  | proxyMismatch => some "delegation does not name this signer as its proxy"
  | refused refusal => some refusal.message
  | refusalKey kind => some ("pubkey must be bytes, got " ++ kind)
  | invalid _ _ => none
  | unencodable text => some (Text.encodingTrouble (fun _ => false) text)
  | noField model field =>
    some ("\"" ++ model ++ "\" object has no field \"" ++ field ++ "\"")
  | ownAttribute cause => some cause.message
  | scopeTags names =>
    some ("unknown signing scope tags: " ++
      Text.ofChars (Value.literal (.list (names.map .text))))
  | levelName name => some ("Unknown level: " ++ Text.ofChars (Value.quoted name))
  | levelKind value =>
    some ("Level not an integer or a valid string: " ++ Text.ofChars value.literal)
  | sourceText field source =>
    some ("error parsing value for field \"" ++ field ++ "\" from source \"" ++ source ++ "\"")
  | sourceValue field source =>
    some ("error getting value for field \"" ++ field ++ "\" from source \"" ++ source ++ "\"")
  | argumentList kind =>
    some ("cli_parse_args must be a list or tuple of strings, received <class '" ++ kind ++ "'>")
  | arguments objection => some ("error parsing CLI: " ++ objection)
  | leave status => some (toString status)
  | secretsPlace kind => some ("secrets_dir must reference a directory, not a " ++ kind)
  | option cause => some cause.message
  | environment cause => some cause.message
  | missingFile path => some ("config file not found: " ++ path)
  | longPath path =>
    some ("[Errno 36] File name too long: " ++ Text.ofChars (Value.quoted path))
  | folder | notUtf8 | document | fieldNames => none
  | tooDeep place => some place.message
  | scalar cause => some cause.message
  | notMapping => some "config file must contain a top-level mapping"
  | notSection => some "cbsigner config section must be a mapping"

def Refusal.make (role : Role) : Value → Except Fault Refusal
  | .bytes b | .buffer b => .ok ⟨role, b⟩
  | value => .error (.refusalKey value.kind)

end KeyCustody
