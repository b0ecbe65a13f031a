import KeyCustody.Log.Entry

set_option autoImplicit false

namespace KeyCustody.Log

inductive LevelChoice where
  | named (name : Text)
  | number (n : Int)
deriving DecidableEq

def LevelChoice.level : LevelChoice → Except Fault Int
  | named name =>
    match levelOf? name with
    | some level => .ok level
    | none => .error (.levelName name)
  | number n => .ok n

def LevelChoice.ofValue : Value → Except Fault LevelChoice
  | .text name => .ok (.named name)
  | .int n => .ok (.number n)
  | .bool b => .ok (.number b.toInt)
  | value => .error (.levelKind value)

structure Sink where
  handler : Option Format
  level : Int
deriving DecidableEq

namespace Sink

def initial : Sink := ⟨none, 30⟩

def handlerCount (sink : Sink) : Nat := if sink.handler.isSome then 1 else 0

-- The old handler goes first, so an unknown level leaves none.
def setup (sink : Sink) (choice : LevelChoice) (format : Format) : Sink × Except Fault Unit :=
  match choice.level with
  | .ok level => (⟨some format, level⟩, .ok ())
  | .error fault => ({ sink with handler := none }, .error fault)

def setupWith (sink : Sink) (level : Value) (format : Format) : Sink × Except Fault Unit :=
  match LevelChoice.ofValue level with
  | .ok choice => sink.setup choice format
  | .error fault => ({ sink with handler := none }, .error fault)

def admits (sink : Sink) (level : Int) : Bool := 0 < level && sink.level ≤ level

def write (sink : Sink) (entry : Entry) : Text :=
  match sink.handler with
  | some format =>
    if sink.admits entry.level then
      match entry.line? format with
      | some line => line ++ "\n"
      | none => []
    else []
  | none => []

end Sink

end KeyCustody.Log
