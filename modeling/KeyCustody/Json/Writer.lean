import KeyCustody.Hex
import KeyCustody.Value.Literal

/-! JSON text in printable ASCII. -/

set_option autoImplicit false

namespace KeyCustody.Json

def escapeUnit (n : Nat) : List Char := '\\' :: 'u' :: Value.hexDigits 4 n

def escapeChar (c : Char) : List Char :=
  if c = '"' then ['\\', '"']
  else if c = '\\' then ['\\', '\\']
  else if c = '\n' then ['\\', 'n']
  else if c = '\r' then ['\\', 'r']
  else if c = '\t' then ['\\', 't']
  else if c = '\x08' then ['\\', 'b']
  else if c = '\x0c' then ['\\', 'f']
  else if 32 ≤ c.toNat ∧ c.toNat < 127 then [c]
  else if c.toNat < 0x10000 then escapeUnit c.toNat
  else
    escapeUnit (0xd800 + (c.toNat - 0x10000) / 1024) ++
      escapeUnit (0xdc00 + (c.toNat - 0x10000) % 1024)

def escape : CodePoint → List Char
  | .char c => escapeChar c
  | .half distance => escapeUnit (CodePoint.half distance).code

def quote (text : Text) : List Char := '"' :: text.flatMap escape ++ ['"']

structure Style where
  comma : List Char
  colon : List Char

def compact : Style := ⟨[','], [':']⟩

def spaced : Style := ⟨[',', ' '], [':', ' ']⟩

def join (comma : List Char) : List (List Char) → List Char
  | [] => []
  | [item] => item
  | item :: rest => item ++ comma ++ join comma rest

def member (style : Style) (name : Text) (value : List Char) : List Char :=
  quote name ++ style.colon ++ value

def writeFloat (x : Float) : List Char :=
  match Decimal.magnitude x with
  | .notNumber => "NaN".toList
  | .infinite => Decimal.signed (Decimal.isNegative x) "Infinity".toList
  | .finite _ _ => Decimal.literal x

mutual

def write (style : Style) : Value → List Char
  | .null => "null".toList
  | .bool b => (if b then "true" else "false").toList
  | .int n => Value.digits n
  | .float x => writeFloat x
  | .text s => quote s
  | .bytes b | .buffer b => quote (Hex.render b)
  | .list items | .tuple items | .set items =>
    '[' :: join style.comma (writeItems style items) ++ [']']
  | .mapping entries => '\x7b' :: join style.comma (writeEntries style entries) ++ ['\x7d']
  | .time t => quote (Text.ofChars (Value.timeText 'T' t))
  | .object o => quote o.display
  | .delegation d =>
    '\x7b' :: join style.comma
      [member style "delegator" (quote (Hex.render d.delegator)),
        member style "proxy" (quote (Hex.render d.proxy))] ++ ['\x7d']

def writeItems (style : Style) : List Value → List (List Char)
  | [] => []
  | item :: rest => write style item :: writeItems style rest

def writeEntries (style : Style) : List (Value × Value) → List (List Char)
  | [] => []
  | (name, value) :: rest =>
    member style name.display (write style value) :: writeEntries style rest

end

def render (style : Style) (value : Value) : String := String.ofList (write style value)

end KeyCustody.Json
