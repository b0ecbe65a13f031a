import KeyCustody.Config.Environment

/-! Files of entries for the environment. Lines that are no entries are passed over. -/

set_option autoImplicit false

namespace KeyCustody.EntryFile

def isBlank (c : Char) : Bool := Text.isBlank (.char c)

def isInline (c : Char) : Bool := isBlank c && c != '\n' && c != '\r'

def isLineEnd (c : Char) : Bool := c == '\n' || c == '\r'

def dropEnd : List Char → List Char
  | '\r' :: '\n' :: rest => rest
  | c :: rest => if isLineEnd c then rest else c :: rest
  | [] => []

def dropLine (text : List Char) : List Char := dropEnd (text.dropWhile (!isLineEnd ·))

def exportWord : List Char := "export".toList

def dropExport (text : List Char) : List Char :=
  if exportWord.isPrefixOf text then
    let rest := text.drop exportWord.length
    if rest.head?.any isInline then rest.dropWhile isInline else text
  else text

-- A quote behind a backslash closes only when no other one does.
def quoted? (quote : Char) : List Char → Option (List Char × List Char)
  | [] => none
  | '\\' :: c :: rest =>
    if c = quote then
      match quoted? quote rest with
      | some (text, rest) => some ('\\' :: c :: text, rest)
      | none => some (['\\'], rest)
    else (quoted? quote (c :: rest)).map fun (text, rest) => ('\\' :: text, rest)
  | c :: rest =>
    if c = quote then some ([], rest)
    else (quoted? quote rest).map fun (text, rest) => (c :: text, rest)

def singleEscapes : List (Char × Char) := [('\\', '\\'), ('\'', '\'')]

def doubleEscapes : List (Char × Char) :=
  [('\\', '\\'), ('\'', '\''), ('"', '"'), ('a', '\x07'), ('b', '\x08'), ('f', '\x0c'),
    ('n', '\n'), ('r', '\r'), ('t', '\t'), ('v', '\x0b')]

def unescape (escapes : List (Char × Char)) : List Char → List Char
  | '\\' :: c :: rest =>
    match escapes.lookup c with
    | some image => image :: unescape escapes rest
    | none => '\\' :: unescape escapes (c :: rest)
  | c :: rest => c :: unescape escapes rest
  | [] => []

def withoutComment : List Char → List Char
  | [] => []
  | c :: rest =>
    if isBlank c && ((c :: rest).dropWhile isBlank).head? = some '#' then []
    else c :: withoutComment rest

def dropBlanksBehind (text : List Char) : List Char := (text.reverse.dropWhile isBlank).reverse

def value? : List Char → Option (List Char × List Char)
  | '\'' :: rest => (quoted? '\'' rest).map fun (text, rest) => (unescape singleEscapes text, rest)
  | '"' :: rest => (quoted? '"' rest).map fun (text, rest) => (unescape doubleEscapes text, rest)
  | text =>
    some (dropBlanksBehind (withoutComment (text.takeWhile (!isLineEnd ·))),
      text.dropWhile (!isLineEnd ·))

def name? : List Char → Option (Option (List Char) × List Char)
  | '#' :: rest => some (none, '#' :: rest)
  | '\'' :: rest =>
    match rest.span (· != '\'') with
    | (_ :: _, []) | ([], _) => none
    | (name, _ :: rest) => some (some name, rest)
  | text =>
    match text.span fun c => c != '=' && c != '#' && !isBlank c with
    | ([], _) => none
    | (name, rest) => some (some name, rest)

abbrev Entry := List Char × Option (List Char)

def atEnd? (text : List Char) : Option (List Char) :=
  let rest := text.dropWhile isInline
  let rest := if rest.head? = some '#' then rest.dropWhile (!isLineEnd ·) else rest
  if rest.isEmpty || rest.head?.any isLineEnd then some (dropEnd rest) else none

def first (text : List Char) : Option Entry × List Char :=
  let text := dropExport text
  match name? text with
  | none => (none, dropLine text)
  | some (name, text) =>
    let finish (value : Option (List Char)) (text : List Char) : Option Entry × List Char :=
      match atEnd? text with
      | some rest => (name.map fun name => (name, value), rest)
      | none =>
        let rest := text.dropWhile isInline
        (none, dropLine rest)
    let text := text.dropWhile isInline
    match text with
    | '=' :: rest =>
      let rest := rest.dropWhile isInline
      match value? rest with
      | some (value, rest) => finish (some value) rest
      | none => (none, dropLine rest)
    | text => finish none text

def entriesFrom : Nat → List Char → List Entry
  | 0, _ => []
  | fuel + 1, text =>
    match text.dropWhile isBlank with
    | [] => []
    | text =>
      let (entry, rest) := first text
      entry.toList ++ entriesFrom fuel rest

def entries (text : List Char) : List Entry := entriesFrom (text.length + 1) text

/-! ## References to other entries -/

structure Reference where
  name : List Char
  default : List Char

def reference? : List Char → Option (Reference × Nat)
  | '\x7b' :: text =>
    match text.span fun c => c != '\x7d' && c != ':' with
    | (name, '\x7d' :: _) => some (⟨name, []⟩, name.length + 2)
    | (name, ':' :: '-' :: rest) =>
      match rest.span (· != '\x7d') with
      | (default, _ :: _) => some (⟨name, default⟩, name.length + default.length + 4)
      | (_, []) => none
    | _ => none
  | _ => none

-- The count tells how much of a reference is still to be passed over.
def resolveFrom (look : List Char → Option Text) : Nat → List Char → Text
  | _, [] => []
  | skip + 1, _ :: rest => resolveFrom look skip rest
  | 0, c :: rest =>
    match if c = '$' then reference? rest else none with
    | some (reference, length) =>
      (look reference.name).getD (Text.ofChars reference.default) ++ resolveFrom look length rest
    | none => .char c :: resolveFrom look 0 rest

def resolve (look : List Char → Option Text) (text : List Char) : Text := resolveFrom look 0 text

abbrev Variables := List (Text × Option Text)

def Variables.put (known : Variables) (name : Text) (value : Option Text) : Variables :=
  if known.any fun entry => entry.1 == name then
    known.map fun entry => if entry.1 == name then (name, value) else entry
  else known ++ [(name, value)]

def look (env : Environment) (above : Variables) (name : List Char) : Option Text :=
  let name := Text.ofChars name
  match above.lookup name with
  | some value => some (value.getD [])
  | none => env.reverse.lookup name

def variablesOf (env : Environment) (text : List Char) : Variables :=
  (entries text).foldl (fun above (name, value) =>
    above.put (Text.ofChars name) (value.map (resolve (look env above)))) []

end KeyCustody.EntryFile
