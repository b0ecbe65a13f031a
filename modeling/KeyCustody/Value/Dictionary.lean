import KeyCustody.Decimal.Binary
import KeyCustody.Value

/-! Mappings in which each key stands once: where it first came, with the value that came last. -/

set_option autoImplicit false

namespace KeyCustody

namespace Timestamp

def dayNumber (t : Timestamp) : Int :=
  let year : Int := if t.month ≤ 2 then t.year - 1 else t.year
  let month := if t.month ≤ 2 then t.month + 9 else t.month - 3
  365 * year + year.fdiv 4 - year.fdiv 100 + year.fdiv 400 + (153 * month + 2) / 5 + t.day

def minuteOf (t : Timestamp) (clock : Clock) : Int :=
  (t.dayNumber * 24 + clock.hour) * 60 + clock.minute

def same (t other : Timestamp) : Bool :=
  match t.clock, other.clock with
  | some clock, some second =>
    clock.offset.isSome == second.offset.isSome &&
      t.minuteOf clock * 60 + clock.second - clock.offset.getD 0 =
        other.minuteOf second * 60 + second.second - second.offset.getD 0 &&
      clock.micro == second.micro
  | _, _ => t = other

end Timestamp

namespace Value

def count? : Value → Option Int
  | bool b => some b.toInt
  | int n => some n
  | float x => if Decimal.isIntegral x then Decimal.truncate? x else none
  | _ => none

def sameKey : Value → Value → Bool
  | null, null => true
  | text s, text other => s == other
  | bytes b, bytes other => b == other
  | time t, time other => t.same other
  | float x, float other => x == other || x.isNaN && other.isNaN
  | key, other =>
    match key.count?, other.count? with
    | some n, some m => n == m
    | _, _ => false

def store (entries : Entries) (entry : Value × Value) : Entries :=
  if entries.any fun held => held.1.sameKey entry.1 then
    entries.map fun held => if held.1.sameKey entry.1 then (held.1, entry.2) else held
  else entries ++ [entry]

def dictionary (entries : Entries) : Entries := entries.foldl store []

end Value

end KeyCustody
