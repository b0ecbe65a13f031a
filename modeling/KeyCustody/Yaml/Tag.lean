import KeyCustody.Yaml.Number
import KeyCustody.Yaml.Time

/-! The types of nodes: given by a tag, or for plain scalars by the look of their text. -/

set_option autoImplicit false

namespace KeyCustody.Yaml

inductive Tag where
  | null
  | bool
  | int
  | float
  | binary
  | timestamp
  | orderedMap
  | pairs
  | set
  | text
  | sequence
  | mapping
  | merge
  | defaultValue
  | unknown
deriving DecidableEq

namespace Tag

def standard : String := "tag:yaml.org,2002:"

def names : List (String × Tag) :=
  [("null", null), ("bool", bool), ("int", int), ("float", float), ("binary", binary),
    ("timestamp", timestamp), ("omap", orderedMap), ("pairs", pairs), ("set", set), ("str", text),
    ("seq", sequence), ("map", mapping), ("merge", merge), ("value", defaultValue)]

def ofName (name : String) : Tag :=
  (names.findSome? fun (short, tag) => if standard ++ short = name then some tag else none).getD
    unknown

def boolWords : List (String × Bool) :=
  [("yes", true), ("no", false), ("true", true), ("false", false), ("on", true), ("off", false)]

def spellings (word : List Char) : List (List Char) :=
  [word, word.map Char.toUpper,
    match word with
    | [] => []
    | c :: rest => c.toUpper :: rest]

def isSpelling (word : String) (text : List Char) : Bool := (spellings word.toList).contains text

def isBool (text : List Char) : Bool := boolWords.any fun entry => isSpelling entry.1 text

def isNull (text : List Char) : Bool := text.isEmpty || text == ['~'] || isSpelling "null" text

def isMoment (text : List Char) : Bool :=
  match Moment.ofLine? text with
  | some moment => moment.padded || moment.time.isSome
  | none => false

def isAnnouncement (text : List Char) : Bool := text = ['!'] || text = ['&'] || text = ['*']

def ofLine (text : List Char) : Tag :=
  if isBool text then bool
  else if isFraction text then float
  else if isInteger text then int
  else if text = ['<', '<'] then merge
  else if isNull text then null
  else if isMoment text then timestamp
  else if text = ['='] then defaultValue
  else if isAnnouncement text then unknown
  else Tag.text

-- A line feed at its end makes no difference, but alone it is text.
def ofPlain (text : Text) : Tag :=
  match text.chars? with
  | none | some ['\n'] => Tag.text
  | some chars => ofLine (dropLineFeed chars)

end Tag

end KeyCustody.Yaml
