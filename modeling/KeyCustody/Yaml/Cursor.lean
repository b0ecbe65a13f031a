set_option autoImplicit false

namespace KeyCustody.Yaml

def isBreak (c : Char) : Bool :=
  c == '\n' || c == '\r' || c == '\x85' || c == '\u2028' || c == '\u2029'

def isSpace (c : Char) : Bool := c == ' ' || c == '\t'

def isGap (c : Char) : Bool := isSpace c || isBreak c

def atGap : List Char → Bool
  | [] => true
  | c :: _ => isGap c

def atStop : List Char → Bool
  | [] => true
  | c :: _ => c == ' ' || isBreak c

def isStart : List Char → Bool
  | '-' :: '-' :: '-' :: rest => atGap rest
  | _ => false

def isEnd : List Char → Bool
  | '.' :: '.' :: '.' :: rest => atGap rest
  | _ => false

def isMarker (rest : List Char) : Bool := isStart rest || isEnd rest

structure Cursor where
  rest : List Char
  index : Nat
  line : Nat
  column : Nat

namespace Cursor

def ofText (text : List Char) : Cursor := ⟨text, 0, 0, 0⟩

def closesLine (c : Char) (rest : List Char) : Bool :=
  if c = '\r' then rest.head? != some '\n' else isBreak c

-- A byte order mark takes no column.
def next (cursor : Cursor) : Cursor :=
  match cursor.rest with
  | [] => cursor
  | c :: rest =>
    if closesLine c rest then ⟨rest, cursor.index + 1, cursor.line + 1, 0⟩
    else ⟨rest, cursor.index + 1, cursor.line,
      if c = '\ufeff' then cursor.column else cursor.column + 1⟩

def skip : Nat → Cursor → Cursor
  | 0, cursor => cursor
  | count + 1, cursor => skip count cursor.next

def span (cursor : Cursor) (test : Char → Bool) : List Char × Cursor :=
  let run := cursor.rest.takeWhile test
  (run, cursor.skip run.length)

def skipWhile (cursor : Cursor) (test : Char → Bool) : Cursor := (cursor.span test).2

-- Two-character breaks and the next-line control read as a line feed.
def lineBreak? (cursor : Cursor) : Option (Char × Cursor) :=
  match cursor.rest with
  | '\r' :: '\n' :: _ => some ('\n', cursor.skip 2)
  | c :: _ =>
    if c = '\u2028' ∨ c = '\u2029' then some (c, cursor.next)
    else if isBreak c then some ('\n', cursor.next)
    else none
  | [] => none

def size (cursor : Cursor) : Nat := cursor.rest.length

def finishLine? (cursor : Cursor) : Option Cursor :=
  let cursor := cursor.skipWhile (· == ' ')
  let cursor := if cursor.rest.head? = some '#' then cursor.skipWhile (!isBreak ·) else cursor
  match cursor.lineBreak? with
  | some (_, after) => some after
  | none => if cursor.rest.isEmpty then some cursor else none

end Cursor

end KeyCustody.Yaml
