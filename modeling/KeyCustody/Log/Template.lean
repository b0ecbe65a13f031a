import KeyCustody.Value.Literal

/-! Message templates. A template that does not fit its arguments has no text. -/

set_option autoImplicit false

namespace KeyCustody.Log

inductive Measure where
  | absent
  | fixed (n : Nat)
  | taken
deriving DecidableEq

structure Flags where
  left : Bool
  plus : Bool
  blank : Bool
  alternate : Bool
  zero : Bool
deriving DecidableEq

structure Slot where
  name : Option Text
  flags : Flags
  width : Measure
  precision : Measure
  conversion : CodePoint
deriving DecidableEq

inductive Piece where
  | text (c : CodePoint)
  | slot (s : Slot)
deriving DecidableEq

/-! ## Reading a template -/

def readName : Nat → Text → Option (Text × Text)
  | _, [] => none
  | depth, point :: rest =>
    let deeper :=
      if point = .char '(' then depth + 1 else if point = .char ')' then depth - 1 else depth
    if point = .char ')' ∧ depth = 0 then some ([], rest)
    else (readName deeper rest).map fun (name, rest) => (point :: name, rest)

def addFlag? (flags : Flags) : CodePoint → Option Flags
  | .char '-' => some { flags with left := true }
  | .char '+' => some { flags with plus := true }
  | .char ' ' => some { flags with blank := true }
  | .char '#' => some { flags with alternate := true }
  | .char '0' => some { flags with zero := true }
  | _ => none

def readFlags (flags : Flags) : Text → Flags × Text
  | [] => (flags, [])
  | point :: rest =>
    match addFlag? flags point with
    | some flags => readFlags flags rest
    | none => (flags, point :: rest)

def isDigit (point : CodePoint) : Bool := 48 ≤ point.code && point.code ≤ 57

def natOf (digits : Text) : Nat := digits.foldl (fun n point => n * 10 + (point.code - 48)) 0

def readMeasure (default : Measure) : Text → Measure × Text
  | .char '*' :: rest => (.taken, rest)
  | text =>
    let digits := text.takeWhile isDigit
    (if digits.isEmpty then default else .fixed (natOf digits), text.dropWhile isDigit)

def readPrecision : Text → Measure × Text
  | .char '.' :: rest => readMeasure (.fixed 0) rest
  | rest => (.absent, rest)

def dropSize : Text → Text
  | .char 'h' :: rest | .char 'l' :: rest | .char 'L' :: rest => rest
  | rest => rest

def readSlot (text : Text) : Option (Slot × Text) := do
  let (name, text) ← match text with
    | .char '(' :: rest => (readName 0 rest).map fun (name, rest) => (some name, rest)
    | text => some (none, text)
  let (flags, text) := readFlags ⟨false, false, false, false, false⟩ text
  let (width, text) := readMeasure .absent text
  let (precision, text) := readPrecision text
  match dropSize text with
  | [] => none
  | point :: rest => return (⟨name, flags, width, precision, point⟩, rest)

def readPieces : Nat → Text → Option (List Piece)
  | _, [] => some []
  | 0, _ => none
  | fuel + 1, .char '%' :: .char '%' :: rest => do
    return .text (.char '%') :: (← readPieces fuel rest)
  | fuel + 1, .char '%' :: rest => do
    let (slot, rest) ← readSlot rest
    return .slot slot :: (← readPieces fuel rest)
  | fuel + 1, point :: rest => do return .text point :: (← readPieces fuel rest)

def pieces? (template : Text) : Option (List Piece) := readPieces template.length template

/-! ## One value in a slot -/

def upperCase (text : List Char) : List Char := text.map Char.toUpper

structure Figure where
  negative : Bool
  marker : List Char
  digits : List Char

def Figure.mapText (figure : Figure) (f : List Char → List Char) : Figure :=
  { figure with marker := f figure.marker, digits := f figure.digits }

def integerFigure (base : Nat) (marker : List Char) (least : Nat) (n : Int) : Figure :=
  let digits := Nat.toDigits base n.natAbs
  ⟨n < 0, marker, List.replicate (least - digits.length) '0' ++ digits⟩

def defaultPlaces : Nat := 6

def floatFigure (conversion : Char) (places : Nat) (alternate : Bool) (x : Float) : Figure :=
  match Decimal.magnitude x with
  | .notNumber => ⟨false, [], "nan".toList⟩
  | .infinite => ⟨Decimal.isNegative x, [], "inf".toList⟩
  | .finite m e =>
    let (num, den) := Decimal.fraction m e
    let digits :=
      if conversion = 'f' then Decimal.fixed num den places alternate
      else if conversion = 'e' then
        let (digits, exponent) := Decimal.significant num den places
        Decimal.scientific digits exponent alternate
      else Decimal.general num den places alternate
    ⟨Decimal.isNegative x, [], digits⟩

def integer? : Value → Option Int
  | .bool b => some (if b then 1 else 0)
  | .int n => some n
  | _ => none

def truncated? : Value → Option Int
  | .float x => Decimal.truncate? x
  | value => integer? value

def float? : Value → Option Float
  | .float x => some x
  | value => (integer? value).bind Decimal.ofInt?

def ofInteger? (n : Int) : Option CodePoint := if n < 0 then none else CodePoint.ofCode? n.toNat

def point? : Value → Option CodePoint
  | .text [point] => some point
  | .text _ => none
  | value => (integer? value).bind ofInteger?

def spaces (count : Nat) : Text := List.replicate count (.char ' ')

def fillUp (flags : Flags) (width : Nat) (text : Text) : Text :=
  let gap := spaces (width - text.length)
  if flags.left then text ++ gap else gap ++ text

def signOf (flags : Flags) (negative : Bool) : List Char :=
  if negative then ['-'] else if flags.plus then ['+'] else if flags.blank then [' '] else []

def layFigure (flags : Flags) (width : Nat) (figure : Figure) : Text :=
  let head := signOf flags figure.negative ++ figure.marker
  if flags.zero && !flags.left then
    Text.ofChars <|
      head ++ List.replicate (width - head.length - figure.digits.length) '0' ++ figure.digits
  else fillUp flags width (Text.ofChars (head ++ figure.digits))

def cut (precision : Option Nat) (text : Text) : Text :=
  match precision with
  | some n => text.take n
  | none => text

def convert? (flags : Flags) (width : Nat) (precision : Option Nat) (conversion : Char)
    (value : Value) : Option Text :=
  let ofInteger (base : Nat) (marker : List Char) (n : Int) : Figure :=
    integerFigure base (if flags.alternate then marker else []) (precision.getD 0) n
  let ofFloat (letter : Char) (x : Float) : Figure :=
    floatFigure letter (precision.getD defaultPlaces) flags.alternate x
  match conversion with
  | 's' => some (fillUp flags width (cut precision value.display))
  | 'r' => some (fillUp flags width (cut precision (Text.ofChars value.literal)))
  | 'a' =>
    some (fillUp flags width (cut precision (Text.ofChars (Value.asciiOnly value.literal))))
  | 'c' => (point? value).map fun point => fillUp flags width [point]
  | 'd' | 'i' | 'u' => (truncated? value).map fun n => layFigure flags width (ofInteger 10 [] n)
  | 'o' => (integer? value).map fun n => layFigure flags width (ofInteger 8 ['0', 'o'] n)
  | 'x' => (integer? value).map fun n => layFigure flags width (ofInteger 16 ['0', 'x'] n)
  | 'X' => (integer? value).map fun n =>
    layFigure flags width ((ofInteger 16 ['0', 'x'] n).mapText upperCase)
  | 'e' | 'f' | 'g' => (float? value).map fun x => layFigure flags width (ofFloat conversion x)
  | 'E' | 'F' | 'G' =>
    (float? value).map fun x =>
      layFigure flags width ((ofFloat conversion.toLower x).mapText upperCase)
  | _ => none

/-! ## Filling a template -/

-- A slot without a name takes the value that was looked up last, at first the mapping itself, and
-- only once.
inductive Arguments where
  | ordered (values : List Value)
  | named (entries : Value.Entries) (current : Option Value)

namespace Arguments

def ofValues : List Value → Arguments
  | [.mapping (entry :: rest)] =>
    .named (entry :: rest) (some (.mapping (entry :: rest)))
  | values => .ordered values

def take? : Arguments → Option (Value × Arguments)
  | ordered [] => none
  | ordered (value :: rest) => some (value, ordered rest)
  | named entries (some value) => some (value, named entries none)
  | named _ none => none

def lookUp? (name : Text) : Arguments → Option Arguments
  | ordered _ => none
  | named entries _ => (Value.field? entries name).map fun value => named entries (some value)

def isUsedUp : Arguments → Bool
  | ordered values => values.isEmpty
  | named _ _ => true

end Arguments

def isMeasure (n : Int) : Bool := -0x80000000 ≤ n && n ≤ 0x7fffffff

def settle? (measure : Measure) (arguments : Arguments) : Option (Option Int × Arguments) :=
  match measure with
  | .absent => some (none, arguments)
  | .fixed n => if isMeasure n then some (some n, arguments) else none
  | .taken => do
    let (value, arguments) ← arguments.take?
    let n ← integer? value
    if isMeasure n then return (some n, arguments) else none

def fillSlot? (slot : Slot) (arguments : Arguments) : Option (Text × Arguments) := do
  let arguments ← match slot.name with
    | some name => arguments.lookUp? name
    | none => some arguments
  let (width, arguments) ← settle? slot.width arguments
  let (precision, arguments) ← settle? slot.precision arguments
  let (value, arguments) ← arguments.take?
  let width := width.getD 0
  let flags := { slot.flags with left := slot.flags.left || width < 0 }
  let conversion ← slot.conversion.char?
  let text ← convert? flags width.natAbs (precision.map Int.toNat) conversion value
  return (text, arguments)

def fillPieces? : List Piece → Arguments → Option Text
  | [], arguments => if arguments.isUsedUp then some [] else none
  | .text point :: rest, arguments => (fillPieces? rest arguments).map (point :: ·)
  | .slot slot :: rest, arguments => do
    let (text, arguments) ← fillSlot? slot arguments
    return text ++ (← fillPieces? rest arguments)

def format? (template : Text) (arguments : List Value) : Option Text :=
  if arguments.isEmpty then some template
  else do fillPieces? (← pieces? template) (Arguments.ofValues arguments)

end KeyCustody.Log
