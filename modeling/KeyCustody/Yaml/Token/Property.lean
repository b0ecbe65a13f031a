import KeyCustody.Fault
import KeyCustody.Text.Utf8
import KeyCustody.Yaml.Cursor
import KeyCustody.Yaml.Token

set_option autoImplicit false

namespace KeyCustody.Yaml

def isWordChar (c : Char) : Bool :=
  ('0' ≤ c && c ≤ '9') || ('A' ≤ c && c ≤ 'Z') || ('a' ≤ c && c ≤ 'z') || c == '-' || c == '_'

def anchorName (cursor : Cursor) : Except Fault (String × Cursor) :=
  let (name, cursor) := cursor.next.span isWordChar
  let ends := atGap cursor.rest ||
    (cursor.rest.head?.any fun c => "?:,]\x7d%@\x60".toList.contains c)
  if name.isEmpty || !ends then .error .document else .ok (String.ofList name, cursor)

def uriEscapes : Nat → Cursor → Option (Bytes × Cursor)
  | 0, cursor => some ([], cursor)
  | fuel + 1, cursor =>
    match cursor.rest with
    | '%' :: a :: b :: _ => do
      let high ← Hex.digitValue? a
      let low ← Hex.digitValue? b
      let (bytes, cursor) ← uriEscapes fuel (cursor.skip 3)
      return (UInt8.ofNat (high * 16 + low) :: bytes, cursor)
    | '%' :: _ => none
    | _ => some ([], cursor)

def isUriChar (c : Char) : Bool := isWordChar c || ";/?:@&=+$,.!~*'()[]".toList.contains c

def uriFrom : Nat → Cursor → Option (List Char × Cursor)
  | 0, cursor => some ([], cursor)
  | fuel + 1, cursor =>
    match cursor.rest with
    | '%' :: _ => do
      let (bytes, cursor) ← uriEscapes (cursor.size + 1) cursor
      let piece ← Text.decodeUtf8? bytes
      let (text, cursor) ← uriFrom fuel cursor
      return (piece ++ text, cursor)
    | c :: _ =>
      if isUriChar c then do
        let (text, cursor) ← uriFrom fuel cursor.next
        return (c :: text, cursor)
      else some ([], cursor)
    | [] => some ([], cursor)

def uri (cursor : Cursor) : Except Fault (String × Cursor) :=
  match uriFrom (cursor.size + 1) cursor with
  | some (text, after) =>
    if after.index = cursor.index then .error .document else .ok (String.ofList text, after)
  | none => .error .document

def tagHandle (cursor : Cursor) : Except Fault (String × Cursor) :=
  match cursor.rest with
  | '!' :: ' ' :: _ => .ok ("!", cursor.next)
  | '!' :: _ =>
    let (name, after) := cursor.next.span isWordChar
    if after.rest.head? = some '!' then
      .ok (String.ofList ('!' :: name ++ ['!']), after.next)
    else .error .document
  | _ => .error .document

def tagName (cursor : Cursor) : Except Fault (TagName × Cursor) := do
  let (name, cursor) ← match cursor.rest.drop 1 with
    | '<' :: _ => do
      let (suffix, cursor) ← uri (cursor.skip 2)
      if cursor.rest.head? ≠ some '>' then throw .document
      pure (⟨none, suffix⟩, cursor.next)
    | rest =>
      if atGap rest then pure (⟨none, "!"⟩, cursor.next)
      else do
        let word := rest.takeWhile fun c => c ≠ ' ' && !isBreak c
        let (handle, cursor) ←
          if word.contains '!' then tagHandle cursor else pure ("!", cursor.next)
        let (suffix, cursor) ← uri cursor
        pure (⟨some handle, suffix⟩, cursor)
  if atStop cursor.rest then return (name, cursor) else throw .document

def isDigit (c : Char) : Bool := '0' ≤ c && c ≤ '9'

def natOf (digits : List Char) : Nat := digits.foldl (fun n c => n * 10 + (c.toNat - 48)) 0

def versionNumber (cursor : Cursor) : Except Fault (Directive × Cursor) := do
  let (major, cursor) := (cursor.skipWhile (· == ' ')).span isDigit
  if major.isEmpty || cursor.rest.head? ≠ some '.' then throw .document
  let (minor, cursor) := cursor.next.span isDigit
  if minor.isEmpty || !atStop cursor.rest then throw .document
  return (.version (natOf major), cursor)

def handleDirective (cursor : Cursor) : Except Fault (Directive × Cursor) := do
  let (name, cursor) ← tagHandle (cursor.skipWhile (· == ' '))
  if cursor.rest.head? ≠ some ' ' then throw .document
  let (leading, cursor) ← uri (cursor.skipWhile (· == ' '))
  if !atStop cursor.rest then throw .document
  return (.handle name leading, cursor)

def directive (cursor : Cursor) : Except Fault (Directive × Cursor) := do
  let (name, cursor) := cursor.next.span isWordChar
  if name.isEmpty || !atStop cursor.rest then throw .document
  let (directive, cursor) ← match String.ofList name with
    | "YAML" => versionNumber cursor
    | "TAG" => handleDirective cursor
    | _ => pure (.reserved, cursor.skipWhile (!isBreak ·))
  match cursor.finishLine? with
  | some cursor => return (directive, cursor)
  | none => throw .document

end KeyCustody.Yaml
