import KeyCustody.Hex
import KeyCustody.Proofs.Pubkey

/-!
Hexadecimal text as a grammar: pairs of digits of either case, blanks around pairs, and at most one
marker in front. A value that spells forty-eight bytes in any of these ways reads as them.
-/

set_option autoImplicit false

namespace KeyCustody

namespace Hex

inductive Spells : List Char → Bytes → Prop
  | nothing : Spells [] []
  | blank (c : Char) (rest : List Char) (bytes : Bytes) (isBlank : isBlank c = true)
      (spelled : Spells rest bytes) : Spells (c :: rest) bytes
  | pair (high low : Char) (upper lower : Nat) (rest : List Char) (bytes : Bytes)
      (highDigit : digitValue? high = some upper) (lowDigit : digitValue? low = some lower)
      (spelled : Spells rest bytes) :
      Spells (high :: low :: rest) (UInt8.ofNat (upper * 16 + lower) :: bytes)

theorem blank_no_digit (c : Char) (blank : isBlank c = true) : digitValue? c = none := by
  simp only [isBlank, Bool.or_eq_true, beq_iff_eq] at blank
  rcases blank with ((((rfl | rfl) | rfl) | rfl) | rfl) | rfl <;> decide

theorem digit_not_blank (c : Char) (value : Nat) (digit : digitValue? c = some value) :
    ¬ isBlank c = true := by
  intro blank
  rw [blank_no_digit c blank] at digit
  cases digit

theorem decode_blank (c : Char) (rest : List Char) (blank : isBlank c = true) :
    decode? (c :: rest) = decode? rest := by
  cases rest with
  | nil => simp only [decode?, if_pos blank]
  | cons d rest => rw [decode?, if_pos blank]

theorem decode_pair (high low : Char) (upper lower : Nat) (rest : List Char)
    (highDigit : digitValue? high = some upper) (lowDigit : digitValue? low = some lower) :
    decode? (high :: low :: rest) =
      (decode? rest).map (UInt8.ofNat (upper * 16 + lower) :: ·) := by
  rw [decode?, if_neg (digit_not_blank high upper highDigit), highDigit, lowDigit]
  cases decode? rest with
  | none => rfl
  | some bytes => rfl

theorem decode_iff_spells (text : List Char) (bytes : Bytes) :
    decode? text = some bytes ↔ Spells text bytes := by
  constructor
  · intro decoded
    fun_induction decode? text generalizing bytes with
    | case1 =>
        cases decoded
        exact .nothing
    | case2 c blank =>
        cases decoded
        exact .blank c [] [] blank .nothing
    | case3 => cases decoded
    | case4 c d rest blank ih => exact .blank c (d :: rest) bytes blank (ih bytes decoded)
    | case5 high low rest _ ih =>
        simp only [Option.bind_eq_bind, Option.bind_eq_some_iff, pure] at decoded
        obtain ⟨upper, highDigit, lower, lowDigit, tail, found, same⟩ := decoded
        cases same
        exact .pair high low upper lower rest tail highDigit lowDigit (ih tail found)
  · intro spelled
    induction spelled with
    | nothing => rfl
    | blank c rest bytes blank _ ih => rw [decode_blank c rest blank, ih]
    | pair high low upper lower rest bytes highDigit lowDigit _ ih =>
        rw [decode_pair high low upper lower rest highDigit lowDigit, ih]
        rfl

theorem digit_value (n : Nat) (small : n < 16) : digitValue? (digit n) = some n := by
  have table : ∀ n : Fin 16, digitValue? (digit n.val) = some n.val := by decide
  exact table ⟨n, small⟩

theorem encode_spells (bytes : Bytes) : Spells (encode bytes) bytes := by
  induction bytes with
  | nil => exact .nothing
  | cons byte rest ih =>
      have bound := byte.toNat_lt
      have halves : UInt8.ofNat (byte.toNat / 16 * 16 + byte.toNat % 16) = byte := by
        rw [Nat.div_add_mod', UInt8.ofNat_toNat]
      have spelled := Spells.pair _ _ _ _ (encode rest) rest
        (digit_value (byte.toNat / 16) (by omega)) (digit_value (byte.toNat % 16) (by omega)) ih
      rw [halves] at spelled
      exact spelled

def markers : List (List Char) := [[], ['0', 'x'], ['0', 'X']]

theorem spelled_no_marker (c : Char) (rest : List Char) (bytes : Bytes)
    (letter : digitValue? c = none) : ¬ Spells ('0' :: c :: rest) bytes := by
  intro spelled
  cases spelled with
  | blank _ _ _ blank _ => exact absurd blank (by decide)
  | pair _ _ _ _ _ _ _ lowDigit _ =>
      rw [letter] at lowDigit
      cases lowDigit

-- Text without a marker cannot seem to have one, since the letter of a marker is no digit.
theorem strip_marker_spelled (marker body : List Char) (bytes : Bytes) (marked : marker ∈ markers)
    (spelled : Spells body bytes) : stripMarker (marker ++ body) = body := by
  simp only [markers, List.mem_cons, List.not_mem_nil, or_false] at marked
  rcases marked with rfl | rfl | rfl
  · rw [List.nil_append]
    unfold stripMarker
    split
    · exact absurd spelled (spelled_no_marker 'x' _ bytes (by decide))
    · exact absurd spelled (spelled_no_marker 'X' _ bytes (by decide))
    · rfl
  · rfl
  · rfl

theorem read_spelled (marker body : List Char) (bytes : Bytes) (marked : marker ∈ markers)
    (spelled : Spells body bytes) : read? (Text.ofChars (marker ++ body)) = some bytes := by
  rw [read?, Text.chars_read_back]
  change decode? (stripMarker (marker ++ body)) = some bytes
  rw [strip_marker_spelled marker body bytes marked spelled]
  exact (decode_iff_spells body bytes).mpr spelled

end Hex

-- All the ways to give a key: raw bytes of either kind, and hexadecimal text.
inductive Spelling (key : Bytes) : Value → Prop
  | bytes : Spelling key (.bytes key)
  | buffer : Spelling key (.buffer key)
  | text (marker body : List Char) (marked : marker ∈ Hex.markers)
      (spelled : Hex.Spells body key) : Spelling key (.text (Text.ofChars (marker ++ body)))

theorem fixed_bytes_spelled (length : Nat) (bytes : Bytes) (value : Value)
    (sized : bytes.length = length) (spelling : Spelling bytes value) :
    fixedBytes length value = .ok bytes := by
  have raw : fixedBytes length (.bytes bytes) = .ok bytes := by
    rw [fixed_bytes_raw, if_pos sized]
  cases spelling with
  | bytes => exact raw
  | buffer => exact raw
  | text marker body marked spelled =>
      rw [fixedBytes, Hex.read_spelled marker body bytes marked spelled]
      exact raw

theorem spelling_read (key : Bytes) (value : Value) (sized : key.length = pubkeyLength)
    (spelling : Spelling key value) : toPubkey value = .ok key := by
  rw [toPubkey, fixed_bytes_spelled pubkeyLength key value sized spelling]
  rfl

theorem rendered_spelling (bytes : Bytes) : Spelling bytes (.text (Hex.render bytes)) := by
  rw [Text.ofString, Hex.render, String.toList_ofList]
  exact .text ['0', 'x'] (Hex.encode bytes) (by decide) (Hex.encode_spells bytes)

end KeyCustody
