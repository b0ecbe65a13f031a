import KeyCustody.Value.Literal

/-!
Points in time as microseconds since the start of 1970. All of them are told in Coordinated
Universal Time, which is taken for the zone of the process as well.
-/

set_option autoImplicit false

namespace KeyCustody.Log

abbrev Instant := Int

namespace Instant

open Value (padded)

structure Date where
  year : Int
  month : Nat
  day : Nat
deriving DecidableEq

-- Years are counted from March on, so the day that a leap year adds comes last, and eras of 400
-- years repeat.
def dateOfDay (day : Int) : Date :=
  let shifted := day + 719468
  let era := shifted.fdiv 146097
  let dayOfEra := (shifted.fmod 146097).toNat
  let yearOfEra := (dayOfEra - dayOfEra / 1460 + dayOfEra / 36524 - dayOfEra / 146096) / 365
  let dayOfYear := dayOfEra - (365 * yearOfEra + yearOfEra / 4 - yearOfEra / 100)
  let shiftedMonth := (5 * dayOfYear + 2) / 153
  let month := if shiftedMonth < 10 then shiftedMonth + 3 else shiftedMonth - 9
  let year := yearOfEra + era * 400 + (if month ≤ 2 then 1 else 0)
  ⟨year, month, dayOfYear - (153 * shiftedMonth + 2) / 5 + 1⟩

def precision : Nat := 53

-- A clock reads seconds as a binary fraction of limited precision.
def reading (time : Instant) : Int × Nat :=
  let size := time.natAbs
  let whole := size / 1000000
  let bits := if whole = 0 then 0 else whole.log2 + 1
  let unit := Nat.pow 2 (precision - bits)
  let excess := Nat.pow 2 (bits - precision)
  let numerator : Nat := Decimal.roundQuotient (size * unit) (1000000 * excess) * excess
  (if time < 0 then -numerator else numerator, unit)

def second (time : Instant) : Int := (reading time).1.fdiv (reading time).2

def read (time : Instant) : Instant :=
  let (numerator, denominator) := reading time
  let size : Nat := Decimal.roundQuotient (numerator.natAbs * 1000000) denominator
  if numerator < 0 then -size else size

def date (second : Int) : Date := dateOfDay (second.fdiv 86400)

def secondOfDay (second : Int) : Nat := (second.fmod 86400).toNat

def monthText (date : Date) : List Char := '-' :: padded 2 date.month ++ '-' :: padded 2 date.day

def clockText (second : Int) : List Char :=
  let second := secondOfDay second
  padded 2 (second / 3600) ++ ':' :: padded 2 (second / 60 % 60) ++ ':' :: padded 2 (second % 60)

def milliseconds (time : Instant) : Nat := (time.fdiv 1000 |>.fmod 1000).toNat

def hasYear (date : Date) : Bool := -0x80000000 ≤ date.year - 1900 && date.year - 1900 ≤ 0x7fffffff

-- Milliseconds are counted from the instant itself.
def plainText? (time : Instant) : Option (List Char) :=
  let second := second time
  let date := date second
  if hasYear date then
    some (Value.digits date.year ++ monthText date ++ ' ' :: clockText second ++ ',' ::
      padded 3 (milliseconds time))
  else none

def zonedText? (time : Instant) : Option (List Char) :=
  let read := read time
  let second := read.fdiv 1000000
  let micros := (read.fmod 1000000).toNat
  let date := date second
  if 1 ≤ date.year && date.year ≤ 9999 then
    some (padded 4 date.year.toNat ++ monthText date ++ 'T' :: clockText second ++
      (if micros = 0 then [] else '.' :: padded 6 micros) ++ "+00:00".toList)
  else none

end Instant

end KeyCustody.Log
