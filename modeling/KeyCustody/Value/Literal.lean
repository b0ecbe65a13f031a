import KeyCustody.Hex
import KeyCustody.Value
import KeyCustody.Decimal.Shortest
import KeyCustody.Text.Printable

set_option autoImplicit false

namespace KeyCustody.Value

def quoteFor (text : Text) : Char :=
  if text.contains (.char '\'') && !text.contains (.char '"') then '"' else '\''

def hexDigits : Nat → Nat → List Char
  | 0, _ => []
  | count + 1, n => hexDigits count (n / 16) ++ [Hex.digit (n % 16)]

def escapeCode (n : Nat) : List Char :=
  if n < 0x100 then '\\' :: 'x' :: hexDigits 2 n
  else if n < 0x10000 then '\\' :: 'u' :: hexDigits 4 n
  else '\\' :: 'U' :: hexDigits 8 n

def escapeCommon? (quote c : Char) : Option (List Char) :=
  if c = quote ∨ c = '\\' then some ['\\', c]
  else if c = '\n' then some ['\\', 'n']
  else if c = '\r' then some ['\\', 'r']
  else if c = '\t' then some ['\\', 't']
  else none

def escapePoint (quote : Char) : CodePoint → List Char
  | .char c =>
    (escapeCommon? quote c).getD (if Text.isPrintable c then [c] else escapeCode c.toNat)
  | .half distance => escapeCode (CodePoint.half distance).code

def quoted (text : Text) : List Char :=
  let quote := quoteFor text
  quote :: text.flatMap (escapePoint quote) ++ [quote]

def asciiOnly (text : List Char) : List Char :=
  text.flatMap fun c => if c.toNat < 0x80 then [c] else escapeCode c.toNat

def escapeByte (quote : Char) (byte : UInt8) : List Char :=
  let c := Char.ofNat byte.toNat
  (escapeCommon? quote c).getD (if 32 ≤ byte && byte < 127 then [c] else escapeCode byte.toNat)

def quotedBytes (bytes : Bytes) : List Char :=
  let quote := quoteFor (bytes.map fun byte => .char (Char.ofNat byte.toNat))
  'b' :: quote :: bytes.flatMap (escapeByte quote) ++ [quote]

def digits (n : Int) : List Char := (toString n).toList

def commas : List (List Char) → List Char
  | [] => []
  | [item] => item
  | item :: rest => item ++ ',' :: ' ' :: commas rest

def padded (width n : Nat) : List Char :=
  let digits := Nat.toDigits 10 n
  List.replicate (width - digits.length) '0' ++ digits

def offsetText (offset : Int) : List Char :=
  let minutes := offset.natAbs / 60
  (if offset < 0 then '-' else '+') :: padded 2 (minutes / 60) ++ ':' :: padded 2 (minutes % 60)

def clockText (clock : Clock) : List Char :=
  padded 2 clock.hour ++ ':' :: padded 2 clock.minute ++ ':' :: padded 2 clock.second ++
    (if clock.micro = 0 then [] else '.' :: padded 6 clock.micro) ++
    ((clock.offset.map offsetText).getD [])

def timeText (joint : Char) (t : Timestamp) : List Char :=
  padded 4 t.year ++ '-' :: padded 2 t.month ++ '-' :: padded 2 t.day ++
    ((t.clock.map fun clock => joint :: clockText clock).getD [])

def zoneLiteral (offset : Int) : List Char :=
  if offset = 0 then "datetime.timezone.utc".toList
  else
    let days := offset.fdiv 86400
    let seconds := offset.fmod 86400
    let parts := (if days = 0 then [] else ["days=".toList ++ digits days]) ++
      (if seconds = 0 then [] else ["seconds=".toList ++ digits seconds])
    "datetime.timezone(datetime.timedelta(".toList ++ commas parts ++ "))".toList

def timeLiteral (t : Timestamp) : List Char :=
  let day := [digits t.year, digits t.month, digits t.day]
  match t.clock with
  | none => "datetime.date(".toList ++ commas day ++ [')']
  | some clock =>
    let fine := if clock.micro ≠ 0 then [digits clock.second, digits clock.micro]
      else if clock.second ≠ 0 then [digits clock.second] else []
    let zone := (clock.offset.map fun offset => "tzinfo=".toList ++ zoneLiteral offset).toList
    "datetime.datetime(".toList ++
      commas (day ++ [digits clock.hour, digits clock.minute] ++ fine ++ zone) ++ [')']

def delegationFields (d : Delegation) (separator : List Char) : List Char :=
  "delegator=".toList ++ quotedBytes d.delegator ++ separator ++ "proxy=".toList ++
    quotedBytes d.proxy

mutual

def literal : Value → List Char
  | null => "None".toList
  | bool b => (if b then "True" else "False").toList
  | int n => digits n
  | float x => Decimal.literal x
  | text s => quoted s
  | bytes b => quotedBytes b
  | buffer b => "bytearray(".toList ++ quotedBytes b ++ [')']
  | list items => '[' :: commas (literals items) ++ [']']
  | tuple [item] => '(' :: literal item ++ [',', ')']
  | tuple items => '(' :: commas (literals items) ++ [')']
  | set [] => "set()".toList
  | set members => '\x7b' :: commas (literals members) ++ ['\x7d']
  | mapping entries => '\x7b' :: commas (pairLiterals entries) ++ ['\x7d']
  | time t => timeLiteral t
  | delegation d => "ProxyDelegation(".toList ++ delegationFields d [',', ' '] ++ [')']
  | object o => o.literal

def literals : List Value → List (List Char)
  | [] => []
  | item :: rest => literal item :: literals rest

def pairLiterals : List (Value × Value) → List (List Char)
  | [] => []
  | (key, value) :: rest => (literal key ++ ':' :: ' ' :: literal value) :: pairLiterals rest

end

def display : Value → Text
  | text s => s
  | time t => Text.ofChars (timeText ' ' t)
  | delegation d => Text.ofChars (delegationFields d [' '])
  | object o => o.display
  | value => Text.ofChars (literal value)

end KeyCustody.Value
