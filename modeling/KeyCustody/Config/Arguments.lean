import KeyCustody.Config.Environment

/-! Settings among the arguments of a command line. -/

set_option autoImplicit false

namespace KeyCustody.Arguments

inductive Absence where
  | refuse
  | stand (value : Text)

inductive Argument where
  | option (name : Text) (absence : Absence) (value : Option Text)
  | help
  | unknown
  | plain

structure Rules where
  caseSensitive : Bool
  wholeSections : Bool
  ignoreUnknown : Bool
  exits : Bool
  noneText : Text

def dash : CodePoint := .char '-'

def leafNames : List Text := ["chain", "logging.level", "logging.json_output"]

def sectionName : Text := "logging"

def absence? (rules : Rules) (name : Text) : Option Absence :=
  if leafNames.contains name then some .refuse
  else if rules.wholeSections && name == sectionName then some (.stand "\x7b\x7d")
  else none

def option? (rules : Rules) (argument : Text) (value : Option Text) : Option Argument :=
  match argument with
  | first :: second :: name =>
    if first = dash ∧ second = dash then
      (absence? rules name).map fun absence => .option name absence value
    else none
  | _ => none

def isDigit (point : CodePoint) : Bool := 0x30 ≤ point.code && point.code ≤ 0x39

def isNegative : Text → Bool
  | first :: rest =>
    let whole := rest.takeWhile isDigit
    first = dash &&
      match rest.drop whole.length with
      | [] => !whole.isEmpty
      | point :: fraction => point = .char '.' && !fraction.isEmpty && fraction.all isDigit
  | [] => false

def equalsSign : CodePoint := .char '='

def assigned? (argument : Text) : Option (Text × Text) :=
  match argument.span (· != equalsSign) with
  | (name, _ :: value) => some (name, value)
  | (_, []) => none

def helpNames : List Text := ["-h", "--help"]

def Argument.ofText (rules : Rules) (text : Text) : Argument :=
  if text.head? != some dash then plain
  else if helpNames.contains text then help
  else
    match option? rules text none with
    | some known => known
    | none =>
      match (assigned? text).bind fun (name, value) => option? rules name (some value) with
      | some known => known
      | none =>
        if text = [dash] ∨ isNegative text ∨ text.contains (.char ' ') then plain else unknown

def Argument.isPlain : Argument → Bool
  | plain => true
  | _ => false

inductive Failure where
  | help
  | noValue (name : Text)

structure Outcome where
  entries : List (Text × Text)
  extras : List Text

namespace Outcome

def withEntry (outcome : Outcome) (name value : Text) : Outcome :=
  { outcome with entries := (name, value) :: outcome.entries }

def withExtra (outcome : Outcome) (text : Text) : Outcome :=
  { outcome with extras := text :: outcome.extras }

end Outcome

def Absence.outcome (absence : Absence) (name : Text) (rest : Except Failure Outcome) :
    Except Failure Outcome :=
  match absence with
  | refuse => .error (.noValue name)
  | stand value => do return (← rest).withEntry name value

def read (rules : Rules) : List Text → Except Failure Outcome
  | [] => .ok ⟨[], []⟩
  | text :: rest =>
    if text = [dash, dash] then .ok ⟨[], text :: rest⟩
    else
      match Argument.ofText rules text with
      | .help => .error .help
      | .unknown | .plain => do return (← read rules rest).withExtra text
      | .option name _ (some value) => do return (← read rules rest).withEntry name value
      | .option name absence none =>
        match rest with
        | [] => absence.outcome name (.ok ⟨[], []⟩)
        | value :: later =>
          if (Argument.ofText rules value).isPlain then do
            return (← read rules later).withEntry name value
          else absence.outcome name (read rules (value :: later))
termination_by texts => texts.length

def isNewline (point : CodePoint) : Bool := point = .char '\n'

-- What stands behind the end of its line is lost.
def foldCase (text : Text) : Text :=
  let name := text.takeWhile fun point => !Text.isBlank point && point != equalsSign
  if name.head? = some dash ∧ 1 < name.length then
    Text.lower name ++ (text.drop name.length).takeWhile fun point => !isNewline point
  else text

def textOf (value : Value) : Except Fault Text :=
  match value with
  | .text text => .ok text
  | value =>
    if value.isVoid then .ok []
    else .error (.option (match value with
      | .bytes _ | .buffer _ => .bytesNotText
      | value => .notTextOrBytes value.fullKind))

def joined : List Text → Text
  | [] => []
  | [text] => text
  | text :: rest => text ++ " " ++ joined rest

def entries (rules : Rules) (values : List Value) : Except Fault (List (Text × Text)) := do
  let texts ← values.mapM textOf
  let wrong (objection : Text) : Fault :=
    if rules.exits then .leave 2 else .arguments objection
  match read rules (if rules.caseSensitive then texts else texts.map foldCase) with
  | .error .help => throw (.leave 0)
  | .error (.noValue name) => throw (wrong ("argument --" ++ name ++ ": expected one argument"))
  | .ok outcome =>
    if !outcome.extras.isEmpty && !rules.ignoreUnknown then
      throw (wrong ("unrecognized arguments: " ++ joined outcome.extras))
    return outcome.entries

def options (rules : Rules) : Environment.Options :=
  ⟨some [], rules.caseSensitive, false, .mark ".", .unlimited, some rules.noneText⟩

end KeyCustody.Arguments
