import KeyCustody.Fault
import KeyCustody.Yaml.Cursor

set_option autoImplicit false

namespace KeyCustody.Yaml

def fold (first : Char) (breaks : List Char) : List Char :=
  (if first ≠ '\n' then [first] else if breaks.isEmpty then [' '] else []) ++ breaks

/-! ## Plain scalars -/

def plainRun (inFlow : Bool) : List Char → List Char
  | [] => []
  | c :: rest =>
    let colonEnds := atGap rest ||
      (inFlow && (rest.head?.any fun d => ",[]\x7b\x7d".toList.contains d))
    if isGap c || (c == ':' && colonEnds) || (inFlow && ",?[]\x7b\x7d".toList.contains c) then []
    else c :: plainRun inFlow rest

structure PlainGap where
  text : List Char
  broken : Bool
  cursor : Cursor

def plainBreaks (first : Char) : Nat → List Char → Cursor → PlainGap
  | 0, breaks, cursor => ⟨fold first breaks.reverse, true, cursor⟩
  | fuel + 1, breaks, cursor =>
    match cursor.rest with
    | ' ' :: _ => plainBreaks first fuel breaks cursor.next
    | _ =>
      match cursor.lineBreak? with
      | none => ⟨fold first breaks.reverse, true, cursor⟩
      | some (c, cursor) =>
        if isMarker cursor.rest then ⟨[], true, cursor⟩
        else plainBreaks first fuel (c :: breaks) cursor

def plainGap (cursor : Cursor) : PlainGap :=
  let (spaces, cursor) := cursor.span (· == ' ')
  match cursor.lineBreak? with
  | none => ⟨spaces, false, cursor⟩
  | some (first, cursor) =>
    if isMarker cursor.rest then ⟨[], true, cursor⟩
    else plainBreaks first (cursor.size + 1) [] cursor

structure PlainScalar where
  text : List Char
  broken : Bool
  cursor : Cursor

def plainFrom (inFlow : Bool) (indent : Int) : Nat → PlainGap → PlainScalar
  | 0, gap => ⟨[], gap.broken, gap.cursor⟩
  | fuel + 1, gap =>
    let cursor := gap.cursor
    let run := if cursor.rest.head? = some '#' then [] else plainRun inFlow cursor.rest
    if run.isEmpty then ⟨[], gap.broken, cursor⟩
    else
      let behind := plainGap (cursor.skip run.length)
      if behind.text.isEmpty || (!inFlow && behind.cursor.column < indent + 1) then
        ⟨gap.text ++ run, behind.broken, behind.cursor⟩
      else
        let more := plainFrom inFlow indent fuel behind
        { more with text := gap.text ++ run ++ more.text }

def plainScalar (inFlow : Bool) (indent : Int) (cursor : Cursor) : PlainScalar :=
  plainFrom inFlow indent (cursor.size + 1) ⟨[], false, cursor⟩

/-! ## Quoted scalars -/

def quotedBreaks : Nat → Cursor → Except Fault (List Char × Cursor)
  | 0, cursor => .ok ([], cursor)
  | fuel + 1, cursor =>
    if isMarker cursor.rest then .error .document
    else
      let cursor := cursor.skipWhile isSpace
      match cursor.lineBreak? with
      | none => .ok ([], cursor)
      | some (c, cursor) => do
        let (breaks, cursor) ← quotedBreaks fuel cursor
        return (c :: breaks, cursor)

def quotedGap (cursor : Cursor) : Except Fault (List Char × Cursor) :=
  let (spaces, cursor) := cursor.span isSpace
  match cursor.lineBreak? with
  | none => .ok (spaces, cursor)
  | some (first, cursor) => do
    let (breaks, cursor) ← quotedBreaks (cursor.size + 1) cursor
    return (fold first breaks, cursor)

def escapes : List (Char × Char) :=
  [('0', '\x00'), ('a', '\x07'), ('b', '\x08'), ('t', '\t'), ('\t', '\t'), ('n', '\n'),
    ('v', '\x0b'), ('f', '\x0c'), ('r', '\r'), ('e', '\x1b'), (' ', ' '), ('"', '"'),
    ('\\', '\\'), ('/', '/'),
    ('N', '\x85'), ('_', '\xa0'), ('L', '\u2028'), ('P', '\u2029')]

def codeLengths : List (Char × Nat) := [('x', 2), ('u', 4), ('U', 8)]

def hexValue? (digits : List Char) : Option Nat :=
  digits.foldlM (fun n c => (Hex.digitValue? c).map fun d => n * 16 + d) 0

def pointOfCode (code : Nat) : Except Fault CodePoint :=
  match CodePoint.ofCode? code with
  | some point => .ok point
  | none => .error (.scalar (if 0x7fffffff < code then .largeCharacter else .character))

def escaped (cursor : Cursor) : Except Fault (Text × Cursor) :=
  match cursor.rest with
  | [] => .error .document
  | c :: rest =>
    match escapes.lookup c, codeLengths.lookup c, cursor.lineBreak? with
    | some meant, _, _ => .ok ([.char meant], cursor.next)
    | none, some length, _ =>
      if rest.length < length then .error .document
      else
        match hexValue? (rest.take length) with
        | none => .error .document
        | some code => do
          let meant ← pointOfCode code
          return ([meant], cursor.skip (length + 1))
    | none, none, some (_, cursor) => do
      let (breaks, cursor) ← quotedBreaks (cursor.size + 1) cursor
      return (Text.ofChars breaks, cursor)
    | none, none, none => .error .document

def quotedFrom (double : Bool) : Nat → Cursor → Except Fault (Text × Cursor)
  | 0, _ => .error .document
  | fuel + 1, cursor =>
    let more (piece : Text) (cursor : Cursor) : Except Fault (Text × Cursor) := do
      let (text, cursor) ← quotedFrom double fuel cursor
      return (piece ++ text, cursor)
    match cursor.rest with
    | [] => .error .document
    | c :: rest =>
      if double && c == '"' then .ok ([], cursor.next)
      else if !double && c == '\'' then
        if rest.head? = some '\'' then more [.char '\''] (cursor.skip 2) else .ok ([], cursor.next)
      else if double && c == '\\' then do
        let (piece, cursor) ← escaped cursor.next
        more piece cursor
      else if isGap c then do
        let (piece, cursor) ← quotedGap cursor
        more (Text.ofChars piece) cursor
      else more [.char c] cursor.next

def quotedScalar (double : Bool) (cursor : Cursor) : Except Fault (Text × Cursor) :=
  quotedFrom double (cursor.size + 1) cursor

/-! ## Block scalars -/

inductive Chomp where
  | clip
  | strip
  | keep
deriving DecidableEq

def chompOf? : Char → Option Chomp
  | '+' => some .keep
  | '-' => some .strip
  | _ => none

def indentOf? (c : Char) : Option Nat :=
  if '1' ≤ c ∧ c ≤ '9' then some (c.toNat - 48) else none

def blockSigns : List Char → Chomp × Option Nat × Nat
  | [] => (.clip, none, 0)
  | c :: rest =>
    match chompOf? c, indentOf? c with
    | some chomp, _ =>
      match rest.head?.bind indentOf? with
      | some indent => (chomp, some indent, 2)
      | none => (chomp, none, 1)
    | none, some indent =>
      match rest.head?.bind chompOf? with
      | some chomp => (chomp, some indent, 2)
      | none => (.clip, some indent, 1)
    | none, none => (.clip, none, 0)

def leadingLines : Nat → Nat → Cursor → List Char × Nat × Cursor
  | 0, widest, cursor => ([], widest, cursor)
  | fuel + 1, widest, cursor =>
    match cursor.lineBreak? with
    | some (c, cursor) =>
      let (breaks, widest, cursor) := leadingLines fuel widest cursor
      (c :: breaks, widest, cursor)
    | none =>
      if cursor.rest.head? = some ' ' then
        let cursor := cursor.next
        leadingLines fuel (max widest cursor.column) cursor
      else ([], widest, cursor)

def skipIndent (indent : Nat) (cursor : Cursor) : Cursor :=
  cursor.skip (min (indent - cursor.column) (cursor.rest.takeWhile (· == ' ')).length)

def blockBreaks (indent : Nat) : Nat → Cursor → List Char × Cursor
  | 0, cursor => ([], cursor)
  | fuel + 1, cursor =>
    let cursor := skipIndent indent cursor
    match cursor.lineBreak? with
    | none => ([], cursor)
    | some (c, cursor) =>
      let (breaks, cursor) := blockBreaks indent fuel cursor
      (c :: breaks, cursor)

structure BlockText where
  text : List Char
  last : List Char
  breaks : List Char
  cursor : Cursor

def blockLines (folded : Bool) (indent : Nat) : Nat → List Char → List Char → Cursor → BlockText
  | 0, last, breaks, cursor => ⟨[], last, breaks, cursor⟩
  | fuel + 1, last, breaks, cursor =>
    if cursor.column = indent ∧ !cursor.rest.isEmpty then
      let textFirst := !(cursor.rest.head?.any isSpace)
      let (line, cursor) := cursor.span (!isBreak ·)
      let (last, cursor) := match cursor.lineBreak? with
        | some (c, cursor) => ([c], cursor)
        | none => ([], cursor)
      let (after, cursor) := blockBreaks indent (cursor.size + 1) cursor
      let goesOn := cursor.column = indent ∧ !cursor.rest.isEmpty
      let folds := folded && last == ['\n'] && textFirst && !(cursor.rest.head?.any isSpace)
      let joint :=
        if !goesOn then [] else if !folds then last else if after.isEmpty then [' '] else []
      let more := blockLines folded indent fuel last after cursor
      { more with text := breaks ++ line ++ joint ++ more.text }
    else ⟨[], last, breaks, cursor⟩

def blockScalar (folded : Bool) (outer : Int) (cursor : Cursor) :
    Except Fault (List Char × Cursor) :=
  let (chomp, increment, signs) := blockSigns cursor.rest
  let cursor := cursor.skip signs
  if !atStop cursor.rest then .error .document
  else
    match cursor.finishLine? with
    | none => .error .document
    | some cursor =>
      let least := (max 1 (outer + 1)).toNat
      let (indent, breaks, cursor) := match increment with
        | some step =>
          let indent := least + step - 1
          let (breaks, cursor) := blockBreaks indent (cursor.size + 1) cursor
          (indent, breaks, cursor)
        | none =>
          let (breaks, widest, cursor) := leadingLines (cursor.size + 1) 0 cursor
          (max least widest, breaks, cursor)
      let block := blockLines folded indent (cursor.size + 1) [] breaks cursor
      let text := block.text ++ (if chomp = .strip then [] else block.last) ++
        (if chomp = .keep then block.breaks else [])
      .ok (text, block.cursor)

end KeyCustody.Yaml
