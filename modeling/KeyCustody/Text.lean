/-!
Text as a sequence of code points. Beside characters a text may hold halves of surrogate pairs: JSON
and documents can name them by number, and no encoding takes them.
-/

set_option autoImplicit false

namespace KeyCustody

inductive CodePoint where
  | char (c : Char)
  | half (distance : Fin 0x800)
deriving DecidableEq

namespace CodePoint

def firstHalf : Nat := 0xd800

def code : CodePoint → Nat
  | char c => c.toNat
  | half distance => firstHalf + distance.val

def ofCode (n : Nat) : CodePoint :=
  if within : 0xd800 ≤ n ∧ n < 0xe000 then half ⟨n - 0xd800, by omega⟩ else char (Char.ofNat n)

def ofCode? (n : Nat) : Option CodePoint := if n ≤ 0x10ffff then some (ofCode n) else none

def char? : CodePoint → Option Char
  | char c => some c
  | half _ => none

def isHalf : CodePoint → Bool
  | char _ => false
  | half _ => true

instance : Coe Char CodePoint := ⟨char⟩

theorem code_half_bounds (distance : Fin 0x800) :
    0xd800 ≤ (half distance).code ∧ (half distance).code < 0xe000 := by
  have bound := distance.isLt
  have unfolded : (half distance).code = 0xd800 + distance.val := rfl
  omega

theorem code_char_bounds (c : Char) : ¬ (0xd800 ≤ (char c).code ∧ (char c).code < 0xe000) := by
  have valid := c.valid
  have unfolded : (char c).code = c.val.toNat := rfl
  simp only [UInt32.isValidChar, Nat.isValidChar] at valid
  omega

theorem of_code_code (point : CodePoint) : ofCode point.code = point := by
  cases point with
  | char c =>
    rw [ofCode, dif_neg (code_char_bounds c)]
    exact congrArg char (Char.ofNat_toNat c)
  | half distance =>
    rw [ofCode, dif_pos (code_half_bounds distance)]
    have unfolded : (half distance).code = 0xd800 + distance.val := rfl
    exact congrArg half (Fin.ext (by simp only [unfolded]; omega))

end CodePoint

abbrev Text := List CodePoint

namespace Text

def ofChars (chars : List Char) : Text := chars.map .char

def ofString (s : String) : Text := ofChars s.toList

instance : Coe String Text := ⟨ofString⟩

def chars? : Text → Option (List Char)
  | [] => some []
  | .char c :: rest => (chars? rest).map (c :: ·)
  | .half _ :: _ => none

@[simp] theorem chars_read_back (chars : List Char) : chars? (ofChars chars) = some chars := by
  induction chars with
  | nil => rfl
  | cons c rest ih => exact congrArg (Option.map (c :: ·)) ih

theorem chars_spell (text : Text) (chars : List Char) (found : chars? text = some chars) :
    ofChars chars = text := by
  induction text generalizing chars with
  | nil =>
    cases found
    rfl
  | cons point rest ih =>
    cases point with
    | half distance => cases found
    | char c =>
      obtain ⟨tail, read, rfl⟩ := Option.map_eq_some_iff.mp found
      exact congrArg (.char c :: ·) (ih tail read)

theorem of_chars_injective (chars others : List Char) (same : ofChars chars = ofChars others) :
    chars = others := by
  have read := congrArg chars? same
  rw [chars_read_back, chars_read_back] at read
  exact Option.some.inj read

def Whole (text : Text) : Prop := ∃ chars, text = ofChars chars

theorem whole_iff (text : Text) : Whole text ↔ text.any (·.isHalf) = false := by
  constructor
  · rintro ⟨chars, rfl⟩
    rw [ofChars, List.any_map]
    exact List.any_eq_false.mpr fun _ _ => Bool.false_ne_true
  · intro whole
    induction text with
    | nil => exact ⟨[], rfl⟩
    | cons point rest ih =>
      cases point with
      | half distance => cases whole
      | char c =>
        obtain ⟨chars, same⟩ := ih whole
        exact ⟨c :: chars, congrArg (.char c :: ·) same⟩

def precedes : Text → Text → Bool
  | [], _ => true
  | _ :: _, [] => false
  | a :: rest, b :: others =>
    if a.code = b.code then precedes rest others else a.code < b.code

end Text

end KeyCustody
