import KeyCustody.Bytes
import KeyCustody.Text

/-! Values of any shape, as they arrive from callers and from configuration documents. -/

set_option autoImplicit false

namespace KeyCustody

structure Delegation where
  delegator : Bytes
  proxy : Bytes
deriving DecidableEq

structure Clock where
  hour : Nat
  minute : Nat
  second : Nat
  micro : Nat
  offset : Option Int
deriving DecidableEq

structure Timestamp where
  year : Nat
  month : Nat
  day : Nat
  clock : Option Clock
deriving DecidableEq

structure Object where
  kind : String
  fullKind : String
  homeKind : String
  literal : List Char
  display : Text
  isVoid : Bool
deriving DecidableEq

inductive Value where
  | null
  | bool (b : Bool)
  | int (n : Int)
  | float (x : Float)
  | text (s : Text)
  | bytes (b : Bytes)
  | buffer (b : Bytes)
  | list (items : List Value)
  | tuple (items : List Value)
  | set (members : List Value)
  | mapping (entries : List (Value × Value))
  | time (t : Timestamp)
  | delegation (d : Delegation)
  | object (o : Object)
deriving Inhabited

namespace Value

def kind : Value → String
  | null => "NoneType"
  | bool _ => "bool"
  | int _ => "int"
  | float _ => "float"
  | text _ => "str"
  | bytes _ => "bytes"
  | buffer _ => "bytearray"
  | list _ => "list"
  | tuple _ => "tuple"
  | set _ => "set"
  | mapping _ => "dict"
  | time t => if t.clock.isSome then "datetime" else "date"
  | delegation _ => "ProxyDelegation"
  | object o => o.kind

def fullKind : Value → String
  | time t => "datetime." ++ (time t).kind
  | object o => o.fullKind
  | value => value.kind

def homeKind : Value → String
  | delegation d => "cbsigner.models.delegation." ++ (delegation d).kind
  | object o => o.homeKind
  | value => value.fullKind

abbrev Entries := List (Value × Value)

def isVoid : Value → Bool
  | null | bool false => true
  | int n => n = 0
  | float x => x == 0
  | text s => s.isEmpty
  | bytes b | buffer b => b.isEmpty
  | list items | tuple items | set items => items.isEmpty
  | mapping entries => entries.isEmpty
  | object o => o.isVoid
  | _ => false

def members? : Value → Option (List Value)
  | text s => some (s.map fun point => text [point])
  | bytes b | buffer b => some (b.map fun byte => int byte.toNat)
  | list members | tuple members | set members => some members
  | mapping entries => some (entries.map (·.1))
  | _ => none

def isText (name : Text) : Value → Bool
  | text s => s == name
  | _ => false

def field? (entries : Entries) (name : Text) : Option Value :=
  (entries.reverse.find? fun entry => entry.1.isText name).map (·.2)

def put (entries : Entries) (name : Text) (value : Value) : Entries :=
  if entries.any fun entry => entry.1.isText name then
    entries.map fun entry => if entry.1.isText name then (entry.1, value) else entry
  else entries ++ [(text name, value)]

def fields (entries : List (Text × Value)) : Value :=
  mapping (entries.map fun entry => (text entry.1, entry.2))

end Value

end KeyCustody
