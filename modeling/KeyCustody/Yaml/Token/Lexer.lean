import KeyCustody.Yaml.Scalar
import KeyCustody.Yaml.Token.Property

/-!
A scalar or a flow collection may turn out to be a key only when a colon follows, on the same line
and within 1024 characters; the key token then goes in front of it.
-/

set_option autoImplicit false

namespace KeyCustody.Yaml

-- A required key has to be followed by its colon.
structure KeyStart where
  before : Nat
  required : Bool
  index : Nat
  line : Nat
  column : Nat

structure Tokens where
  list : List Token
  broken : Option Fault

structure Lexer where
  cursor : Cursor
  tokens : List Token
  flow : Nat
  indent : Int
  outer : List Int
  keyAllowed : Bool
  keys : List (Nat × KeyStart)

namespace Lexer

def ofText (text : List Char) : Lexer := ⟨Cursor.ofText text, [], 0, -1, [], true, []⟩

def inFlow (lexer : Lexer) : Bool := lexer.flow ≠ 0

def push (lexer : Lexer) (token : Token) : Lexer := { lexer with tokens := token :: lexer.tokens }

def insert (lexer : Lexer) (before : Nat) (token : Token) : Lexer :=
  let behind := lexer.tokens.length - before
  { lexer with tokens := lexer.tokens.take behind ++ token :: lexer.tokens.drop behind }

def skip (lexer : Lexer) (count : Nat) : Lexer := { lexer with cursor := lexer.cursor.skip count }

def allowKey (lexer : Lexer) (allowed : Bool) : Lexer := { lexer with keyAllowed := allowed }

def toNextToken : Nat → Lexer → Lexer
  | 0, lexer => lexer
  | fuel + 1, lexer =>
    let cursor := lexer.cursor.skipWhile (· == ' ')
    let cursor := if cursor.rest.head? = some '#' then cursor.skipWhile (!isBreak ·) else cursor
    match cursor.lineBreak? with
    | some (_, cursor) =>
      toNextToken fuel
        { lexer with cursor := cursor, keyAllowed := lexer.keyAllowed || !lexer.inFlow }
    | none => { lexer with cursor := cursor }

def isStale (cursor : Cursor) (start : KeyStart) : Bool :=
  start.line ≠ cursor.line || 1024 < cursor.index - start.index

def dropStale (lexer : Lexer) : Except Fault Lexer :=
  if lexer.keys.any fun entry => isStale lexer.cursor entry.2 && entry.2.required then
    .error .document
  else .ok { lexer with keys := lexer.keys.filter fun entry => !isStale lexer.cursor entry.2 }

def keyStart? (lexer : Lexer) : Option KeyStart := lexer.keys.lookup lexer.flow

def withoutKey (lexer : Lexer) : Lexer :=
  { lexer with keys := lexer.keys.filter fun entry => entry.1 ≠ lexer.flow }

def dropKey (lexer : Lexer) : Except Fault Lexer :=
  match lexer.keyStart? with
  | some start => if start.required then .error .document else .ok lexer.withoutKey
  | none => .ok lexer

def saveKey (lexer : Lexer) : Except Fault Lexer := do
  if !lexer.keyAllowed then return lexer
  let required := !lexer.inFlow && lexer.indent == lexer.cursor.column
  let lexer ← lexer.dropKey
  let start : KeyStart :=
    ⟨lexer.tokens.length, required, lexer.cursor.index, lexer.cursor.line, lexer.cursor.column⟩
  return { lexer with keys := (lexer.flow, start) :: lexer.keys }

def closeBlocks (column : Int) : List Int → Lexer → Lexer
  | [], lexer => lexer
  | outer :: rest, lexer =>
    if column < lexer.indent then
      closeBlocks column rest { lexer.push .blockEnd with indent := outer, outer := rest }
    else lexer

def unwind (lexer : Lexer) (column : Int) : Lexer :=
  if lexer.inFlow then lexer else closeBlocks column lexer.outer lexer

def openBlock? (lexer : Lexer) (column : Nat) : Option Lexer :=
  if lexer.indent < column then
    some { lexer with indent := column, outer := lexer.indent :: lexer.outer }
  else none

def openBlock (lexer : Lexer) (column : Nat) (token : Token) : Lexer :=
  match lexer.openBlock? column with
  | some deeper => deeper.push token
  | none => lexer

def atTop (lexer : Lexer) : Except Fault Lexer := do
  let lexer ← (lexer.unwind (-1)).dropKey
  return lexer.allowKey false

def documentMarker (lexer : Lexer) (token : Token) : Except Fault Lexer := do
  return ((← lexer.atTop).push token).skip 3

def directiveLine (lexer : Lexer) : Except Fault Lexer := do
  let lexer ← lexer.atTop
  let (d, cursor) ← directive lexer.cursor
  return { lexer.push (.directive d) with cursor := cursor }

def flowStart (lexer : Lexer) (token : Token) : Except Fault Lexer := do
  let lexer ← lexer.saveKey
  return (({ lexer with flow := lexer.flow + 1 }.allowKey true).push token).skip 1

def flowEnd (lexer : Lexer) (token : Token) : Except Fault Lexer := do
  let lexer ← lexer.dropKey
  if lexer.flow = 0 then throw .document
  return (({ lexer with flow := lexer.flow - 1 }.allowKey false).push token).skip 1

def flowComma (lexer : Lexer) : Except Fault Lexer := do
  let lexer ← (lexer.allowKey true).dropKey
  return (lexer.push .comma).skip 1

def blockEntry (lexer : Lexer) : Except Fault Lexer := do
  if !lexer.inFlow && !lexer.keyAllowed then throw .document
  let lexer := if lexer.inFlow then lexer else lexer.openBlock lexer.cursor.column .blockSequence
  let lexer ← (lexer.allowKey true).dropKey
  return (lexer.push .entry).skip 1

def explicitKey (lexer : Lexer) : Except Fault Lexer := do
  if !lexer.inFlow && !lexer.keyAllowed then throw .document
  let lexer := if lexer.inFlow then lexer else lexer.openBlock lexer.cursor.column .blockMapping
  let lexer ← (lexer.allowKey (!lexer.inFlow)).dropKey
  return (lexer.push .key).skip 1

def valueMark (lexer : Lexer) : Except Fault Lexer := do
  let lexer ← match lexer.keyStart? with
    | some start =>
      let lexer := lexer.withoutKey.insert start.before .key
      let opened := if lexer.inFlow then none else lexer.openBlock? start.column
      pure ((match opened with
        | some deeper => deeper.insert start.before .blockMapping
        | none => lexer).allowKey false)
    | none =>
      if lexer.inFlow then lexer.allowKey false |>.dropKey
      else if !lexer.keyAllowed then throw .document
      else ((lexer.openBlock lexer.cursor.column .blockMapping).allowKey true).dropKey
  return (lexer.push .value).skip 1

def named (lexer : Lexer) (make : String → Token) : Except Fault Lexer := do
  let lexer := (← lexer.saveKey).allowKey false
  let (name, cursor) ← anchorName lexer.cursor
  return { lexer.push (make name) with cursor := cursor }

def tagged (lexer : Lexer) : Except Fault Lexer := do
  let lexer := (← lexer.saveKey).allowKey false
  let (name, cursor) ← tagName lexer.cursor
  return { lexer.push (.tag name) with cursor := cursor }

def block (lexer : Lexer) (folded : Bool) : Except Fault Lexer := do
  let lexer ← (lexer.allowKey true).dropKey
  let (text, cursor) ← blockScalar folded lexer.indent lexer.cursor.next
  return { lexer.push (.scalar (Text.ofChars text) false) with cursor := cursor }

def quotedText (lexer : Lexer) (double : Bool) : Except Fault Lexer := do
  let lexer := (← lexer.saveKey).allowKey false
  let (text, cursor) ← quotedScalar double lexer.cursor.next
  return { lexer.push (.scalar text false) with cursor := cursor }

def plain (lexer : Lexer) : Except Fault Lexer := do
  let lexer ← lexer.saveKey
  let scalar := plainScalar lexer.inFlow lexer.indent lexer.cursor
  return { lexer.push (.scalar (Text.ofChars scalar.text) true) with
    cursor := scalar.cursor, keyAllowed := scalar.broken }

def startsPlain (inFlow : Bool) : List Char → Bool
  | [] => false
  | c :: rest =>
    !(isGap c || "-?:,[]\x7b\x7d#&*!|>'\"%@\x60".toList.contains c) ||
      (!atGap rest && (c == '-' || (!inFlow && (c == '?' || c == ':'))))

def scan (lexer : Lexer) (c : Char) (rest : List Char) : Except Fault Lexer :=
  let inFlow := lexer.inFlow
  let first := lexer.cursor.column = 0
  if first && c == '%' then lexer.directiveLine
  else if first && isStart (c :: rest) then lexer.documentMarker .documentStart
  else if first && isEnd (c :: rest) then lexer.documentMarker .documentEnd
  else if c == '[' then lexer.flowStart .flowSequence
  else if c == '\x7b' then lexer.flowStart .flowMapping
  else if c == ']' then lexer.flowEnd .flowSequenceEnd
  else if c == '\x7d' then lexer.flowEnd .flowMappingEnd
  else if c == ',' then lexer.flowComma
  else if c == '-' && atGap rest then lexer.blockEntry
  else if c == '?' && (inFlow || atGap rest) then lexer.explicitKey
  else if c == ':' && (inFlow || atGap rest) then lexer.valueMark
  else if c == '*' then lexer.named .alias
  else if c == '&' then lexer.named .anchor
  else if c == '!' then lexer.tagged
  else if c == '|' && !inFlow then lexer.block false
  else if c == '>' && !inFlow then lexer.block true
  else if c == '\'' then lexer.quotedText false
  else if c == '"' then lexer.quotedText true
  else if startsPlain inFlow (c :: rest) then lexer.plain
  else .error .document

def step (lexer : Lexer) : Except Fault (Lexer × Bool) := do
  let lexer ← (lexer.toNextToken (lexer.cursor.size + 1)).dropStale
  let lexer := lexer.unwind lexer.cursor.column
  match lexer.cursor.rest with
  | [] => return (← lexer.atTop, true)
  | c :: rest => return (← lexer.scan c rest, false)

-- A possible key may still get a token in front.
def settled (lexer : Lexer) : Nat :=
  let starts := lexer.keys.filter fun entry => !isStale lexer.cursor entry.2
  starts.foldl (fun least entry => min least entry.2.before) lexer.tokens.length

def breakOff (lexer : Lexer) (fault : Fault) : Tokens :=
  ⟨lexer.tokens.reverse.take lexer.settled, some fault⟩

def run : Nat → Lexer → Tokens
  | 0, lexer => lexer.breakOff .document
  | fuel + 1, lexer =>
    match lexer.step with
    | .error fault => lexer.breakOff fault
    | .ok (lexer, true) => ⟨lexer.tokens.reverse, none⟩
    | .ok (lexer, false) => run fuel lexer

end Lexer

def dropMark (cursor : Cursor) : Cursor :=
  if cursor.rest.head? = some '\ufeff' then cursor.next else cursor

def Tokens.ofText (text : List Char) : Tokens :=
  let lexer := Lexer.ofText text
  { lexer with cursor := dropMark lexer.cursor }.run (text.length + 1)

end KeyCustody.Yaml
