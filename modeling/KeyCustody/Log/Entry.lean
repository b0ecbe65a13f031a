import KeyCustody.Json.Writer
import KeyCustody.Log.Clock
import KeyCustody.Log.Scope
import KeyCustody.Log.Template

/-! Log entries and the two forms of their lines. -/

set_option autoImplicit false

namespace KeyCustody.Log

def levels : List (String × Int) :=
  [("CRITICAL", 50), ("ERROR", 40), ("WARNING", 30), ("INFO", 20), ("DEBUG", 10), ("NOTSET", 0)]

def levelAliases : List (String × Int) := [("FATAL", 50), ("WARN", 30)]

def levelOf? (name : Text) : Option Int :=
  ((levels ++ levelAliases).find? fun entry => Text.ofString entry.1 = name).map (·.2)

def levelName (level : Int) : String :=
  match levels.find? fun entry => entry.2 = level with
  | some entry => entry.1
  | none => "Level " ++ toString level

inductive FailureKind where
  | value
  | runtime
  | key
deriving DecidableEq

def FailureKind.all : List FailureKind := [value, runtime, key]

def FailureKind.name : FailureKind → String
  | value => "ValueError"
  | runtime => "RuntimeError"
  | key => "KeyError"

-- What an entry says of a failure: that none was under way, which one it was, all that is told of
-- one, that there is none, or something that nothing can be told from.
inductive Failure where
  | absent
  | raised (kind : FailureKind) (details : List Value)
  | traced (text : Text)
  | denied
  | garbled

-- A single detail shows as text, but a missing key as a literal.
def detailText (kind : FailureKind) : List Value → Text
  | [] => []
  | [detail] => if kind = .key then Text.ofChars detail.literal else detail.display
  | details => Text.ofChars ('(' :: Value.commas (Value.literals details) ++ [')'])

def raisedText (kind : FailureKind) (details : List Value) : Text :=
  match detailText kind details with
  | [] => kind.name
  | text => kind.name ++ ": " ++ text

def Failure.text? : Failure → Option Text
  | absent => some "NoneType: None"
  | raised kind details => some (raisedText kind details)
  | traced text => some text
  | denied | garbled => none

structure Entry where
  time : Instant
  level : Int
  logger : Text
  message : Text
  scope : Scope
  failure : Option Failure

structure Payload where
  timestamp : Text
  level : Text
  logger : Text
  message : Text
  scope : Scope
  exception : Option Text

namespace Payload

def members (payload : Payload) : List (Text × Text) :=
  let own : List (Text × Text) :=
    [("timestamp", payload.timestamp), ("level", payload.level), ("logger", payload.logger),
      ("message", payload.message)]
  own ++ payload.scope.tags ++
    match payload.exception with
    | some text => [("exception", text)]
    | none => []

def line (payload : Payload) : Text :=
  Text.ofChars <| Json.write Json.spaced <|
    .fields (payload.members.map fun (name, text) => (name, .text text))

end Payload

inductive Format where
  | text
  | json
deriving DecidableEq

namespace Entry

def endLine (text : Text) : Text :=
  if text.getLast? = some (.char '\n') then text else text ++ "\n"

def plainLine (entry : Entry) (time : List Char) : Text :=
  Text.ofChars time ++ " " ++ levelName entry.level ++ " " ++ entry.logger ++ " [" ++
    entry.scope.describe ++ "] " ++ entry.message

def withFailure (line text : Text) : Text :=
  if text.isEmpty then line else endLine line ++ text

-- A failure stands on lines of its own, and one that is denied is not told.
def textLine? (entry : Entry) (time : List Char) : Option Text :=
  match entry.failure with
  | none | some .denied => some (entry.plainLine time)
  | some failure => failure.text?.map (withFailure (entry.plainLine time))

def payload (entry : Entry) (time : List Char) : Payload where
  timestamp := Text.ofChars time
  level := levelName entry.level
  logger := entry.logger
  message := entry.message
  scope := entry.scope
  exception := entry.failure.bind Failure.text?

-- Whatever is said of a failure has to be told, also that there is none.
def jsonLine? (entry : Entry) (time : List Char) : Option Text :=
  if entry.failure.all (·.text?.isSome) then some (entry.payload time).line else none

def line? (entry : Entry) : Format → Option Text
  | .text => (Instant.plainText? entry.time).bind entry.textLine?
  | .json => (Instant.zonedText? entry.time).bind entry.jsonLine?

end Entry

end KeyCustody.Log
