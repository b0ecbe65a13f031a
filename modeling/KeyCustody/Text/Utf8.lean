import KeyCustody.Bytes
import KeyCustody.Text

set_option autoImplicit false

namespace KeyCustody.Text

def isTail (byte : UInt8) : Bool := 0x80 ≤ byte && byte ≤ 0xbf

def decodeUtf8? : Bytes → Option (List Char)
  | [] => some []
  | a :: rest =>
    if a < 0x80 then (Char.ofNat a.toNat :: ·) <$> decodeUtf8? rest
    else if 0xc2 ≤ a && a ≤ 0xdf then
      match rest with
      | b :: rest =>
        if isTail b then
          (Char.ofNat ((a.toNat - 0xc0) * 64 + (b.toNat - 0x80)) :: ·) <$> decodeUtf8? rest
        else none
      | [] => none
    else if 0xe0 ≤ a && a ≤ 0xef then
      match rest with
      | b :: c :: rest =>
        let code := (a.toNat - 0xe0) * 4096 + (b.toNat - 0x80) * 64 + (c.toNat - 0x80)
        if isTail b && isTail c && 0x800 ≤ code && !(0xd800 ≤ code && code ≤ 0xdfff) then
          (Char.ofNat code :: ·) <$> decodeUtf8? rest
        else none
      | _ => none
    else if 0xf0 ≤ a && a ≤ 0xf4 then
      match rest with
      | b :: c :: d :: rest =>
        let code := (a.toNat - 0xf0) * 262144 + (b.toNat - 0x80) * 4096 + (c.toNat - 0x80) * 64 +
          (d.toNat - 0x80)
        if isTail b && isTail c && isTail d && 0x10000 ≤ code && code ≤ 0x10ffff then
          (Char.ofNat code :: ·) <$> decodeUtf8? rest
        else none
      | _ => none
    else none

def utf8Char (c : Char) : Bytes :=
  let n := c.toNat
  if n < 0x80 then [UInt8.ofNat n]
  else if n < 0x800 then [UInt8.ofNat (0xc0 + n / 64), UInt8.ofNat (0x80 + n % 64)]
  else if n < 0x10000 then
    [UInt8.ofNat (0xe0 + n / 4096), UInt8.ofNat (0x80 + n / 64 % 64), UInt8.ofNat (0x80 + n % 64)]
  else
    [UInt8.ofNat (0xf0 + n / 262144), UInt8.ofNat (0x80 + n / 4096 % 64),
      UInt8.ofNat (0x80 + n / 64 % 64), UInt8.ofNat (0x80 + n % 64)]

def encodeUtf8 (chars : List Char) : Bytes := chars.flatMap utf8Char

def utf8? (text : Text) : Option Bytes := (chars? text).map encodeUtf8

def leadingHalves (text : Text) : Nat := (text.takeWhile CodePoint.isHalf).length

-- Why a text has no encoding: the place of its first halves of surrogate pairs, those aside that
-- stand for something.
def encodingTrouble (stands : CodePoint → Bool) (text : Text) : String :=
  let start := (text.takeWhile fun point => !point.isHalf || stands point).length
  let run := text.drop start
  let count := leadingHalves run
  let place := match run with
    | [] => ""
    | first :: _ =>
      if count = 1 then
        "character '\\u" ++ String.ofList (Nat.toDigits 16 first.code) ++ "' in position " ++
          toString start
      else "characters in position " ++ toString start ++ "-" ++ toString (start + count - 1)
  "'utf-8' codec can't encode " ++ place ++ ": surrogates not allowed"

def ofUtf8? (bytes : Bytes) : Option Text := (decodeUtf8? bytes).map ofChars

/-! ## Text that stands for any bytes -/

def firstEscape : Nat := 0xdc00

def escapedByte? (point : CodePoint) : Option UInt8 :=
  if firstEscape + 0x80 ≤ point.code && point.code ≤ firstEscape + 0xff then
    some (UInt8.ofNat (point.code - firstEscape))
  else none

def isEscape (point : CodePoint) : Bool := (escapedByte? point).isSome

def pointBytes? : CodePoint → Option Bytes
  | .char c => some (utf8Char c)
  | point => (escapedByte? point).map ([·])

def escapedUtf8? (text : Text) : Option Bytes :=
  text.foldr (fun point rest => do return (← pointBytes? point) ++ (← rest)) (some [])

def firstChar? (bytes : Bytes) : Option (Char × Nat) :=
  [1, 2, 3, 4].findSome? fun length =>
    match decodeUtf8? (bytes.take length) with
    | some [c] => some (c, length)
    | _ => none

-- The count tells how many bytes of a character are still to be passed over.
def ofBytesFrom : Nat → Bytes → Text
  | _, [] => []
  | skip + 1, _ :: rest => ofBytesFrom skip rest
  | 0, byte :: rest =>
    match firstChar? (byte :: rest) with
    | some (c, length) => .char c :: ofBytesFrom (length - 1) rest
    | none => CodePoint.ofCode (firstEscape + byte.toNat) :: ofBytesFrom 0 rest

def ofBytes (bytes : Bytes) : Text := ofBytesFrom 0 bytes

end KeyCustody.Text
