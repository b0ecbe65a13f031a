import KeyCustody.Fault

set_option autoImplicit false

namespace KeyCustody.Yaml

def isTimeDigit (c : Char) : Bool := '0' ≤ c && c ≤ '9'

def readDigits? (least most : Nat) (text : List Char) : Option (List Char × List Char) :=
  let run := (text.take most).takeWhile isTimeDigit
  if run.length < least then none else some (run, text.drop run.length)

def expect? (c : Char) : List Char → Option (List Char)
  | d :: rest => if c = d then some rest else none
  | [] => none

def numberOf (digits : List Char) : Nat := digits.foldl (fun n c => n * 10 + (c.toNat - 48)) 0

structure Zone where
  negative : Bool
  hours : Nat
  minutes : Nat
deriving DecidableEq

structure DayTime where
  hour : Nat
  minute : Nat
  second : Nat
  micro : Nat
  zone : Option Zone
deriving DecidableEq

structure Moment where
  year : Nat
  month : Nat
  day : Nat
  padded : Bool
  time : Option DayTime
deriving DecidableEq

def isTimeBlank (c : Char) : Bool := c == ' ' || c == '\t'

def readJoint? : List Char → Option (List Char)
  | c :: rest =>
    if c = 'T' ∨ c = 't' then some rest
    else if isTimeBlank c then some (rest.dropWhile isTimeBlank)
    else none
  | [] => none

def readZoneMinutes? : List Char → Option (Nat × List Char)
  | ':' :: rest => (readDigits? 2 2 rest).map fun (digits, rest) => (numberOf digits, rest)
  | rest => some (0, rest)

def readZone? (text : List Char) : Option (Option Zone) :=
  if text.isEmpty then some none
  else
    match text.dropWhile isTimeBlank with
    | ['Z'] => some (some ⟨false, 0, 0⟩)
    | c :: rest =>
      if c = '+' ∨ c = '-' then do
        let (hours, rest) ← readDigits? 1 2 rest
        let (minutes, rest) ← readZoneMinutes? rest
        if rest.isEmpty then some (some ⟨c = '-', numberOf hours, minutes⟩) else none
      else none
    | [] => none

def microOf (digits : List Char) : Nat :=
  let kept := digits.take 6
  numberOf (kept ++ List.replicate (6 - kept.length) '0')

def readFraction : List Char → Nat × List Char
  | '.' :: rest => (microOf (rest.takeWhile isTimeDigit), rest.dropWhile isTimeDigit)
  | rest => (0, rest)

def readDayTime? (text : List Char) : Option DayTime := do
  let (hour, rest) ← readDigits? 1 2 text
  let (minute, rest) ← readDigits? 2 2 (← expect? ':' rest)
  let (second, rest) ← readDigits? 2 2 (← expect? ':' rest)
  let (micro, rest) := readFraction rest
  let zone ← readZone? rest
  return ⟨numberOf hour, numberOf minute, numberOf second, micro, zone⟩

def dropLineFeed (text : List Char) : List Char :=
  if text.getLast? = some '\n' then text.dropLast else text

def Moment.ofLine? (text : List Char) : Option Moment := do
  let (year, rest) ← readDigits? 4 4 text
  let (month, rest) ← readDigits? 1 2 (← expect? '-' rest)
  let (day, rest) ← readDigits? 1 2 (← expect? '-' rest)
  let padded := month.length == 2 && day.length == 2
  let time ← if rest.isEmpty then pure none else do
    let time ← readDayTime? (← readJoint? rest)
    pure (some time)
  return ⟨numberOf year, numberOf month, numberOf day, padded, time⟩

def Moment.read? (text : List Char) : Option Moment := ofLine? (dropLineFeed text)

def isLeap (year : Nat) : Bool := year % 4 == 0 && (year % 100 != 0 || year % 400 == 0)

def daysInMonth (year month : Nat) : Nat :=
  if month = 2 then (if isLeap year then 29 else 28)
  else if [4, 6, 9, 11].contains month then 30
  else 31

def Zone.offset (zone : Zone) : Int :=
  let size : Int := zone.hours * 3600 + zone.minutes * 60
  if zone.negative then -size else size

def Zone.check (zone : Zone) : Except ScalarFault Unit :=
  let days := zone.offset.fdiv 86400
  let seconds := zone.offset.fmod 86400
  if 1 ≤ days ∨ days < -1 ∨ (days = -1 ∧ seconds = 0) then .error (.offset days seconds) else .ok ()

def checkDay (year month day : Nat) : Except ScalarFault Unit :=
  if year = 0 then .error (.year year)
  else if month = 0 ∨ 12 < month then .error .month
  else if day = 0 ∨ daysInMonth year month < day then .error .day
  else .ok ()

def DayTime.check (time : DayTime) : Except ScalarFault Unit :=
  if 23 < time.hour then .error .hour
  else if 59 < time.minute then .error .minute
  else if 59 < time.second then .error .second
  else .ok ()

def DayTime.clock (time : DayTime) : Clock :=
  ⟨time.hour, time.minute, time.second, time.micro, time.zone.map Zone.offset⟩

-- The zone is looked at first.
def Moment.timestamp (moment : Moment) : Except ScalarFault Timestamp := do
  match moment.time with
  | none => checkDay moment.year moment.month moment.day
  | some time =>
    match time.zone with
    | some zone => zone.check
    | none => pure ()
    checkDay moment.year moment.month moment.day
    time.check
  return ⟨moment.year, moment.month, moment.day, moment.time.map DayTime.clock⟩

end KeyCustody.Yaml
