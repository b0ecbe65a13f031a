import KeyCustody.Proofs.Hex
import Mathlib.Data.List.Forall2

/-!
Forms of hexadecimal text. What is accepted is told by its characters alone: one mark or none, and
behind it pairs of digits with runs of blanks around them. Among all the forms of a byte string one
is marked, lower-case and without blanks, and that is the one that is written.
-/

set_option autoImplicit false

namespace KeyCustody.Hex

/-! ## Characters -/

def blanks : List Char := [' ', '\t', '\n', '\r', '\x0b', '\x0c']

theorem blank_listed (c : Char) : isBlank c = true ↔ c ∈ blanks := by
  simp only [isBlank, blanks, Bool.or_eq_true, beq_iff_eq, List.mem_cons, List.not_mem_nil,
    or_false, or_assoc]

def lowerDigits : List Char := "0123456789abcdef".toList

def upperDigits : List Char := "0123456789ABCDEF".toList

-- A digit stands for its place among the sixteen, in either case.
def StandsFor (c : Char) (value : Nat) : Prop :=
  lowerDigits[value]? = some c ∨ upperDigits[value]? = some c

instance (c : Char) (value : Nat) : Decidable (StandsFor c value) :=
  inferInstanceAs (Decidable (lowerDigits[value]? = some c ∨ upperDigits[value]? = some c))

theorem digit_ascii (c : Char) (value : Nat) (digit : digitValue? c = some value) :
    c.toNat < 128 := by
  have bound (top : Char) (small : top.toNat < 128) (below : c ≤ top) : c.toNat < 128 :=
    Nat.lt_of_le_of_lt below small
  rw [digitValue?] at digit
  split at digit
  · next number => exact bound '9' (by decide) number.2
  · split at digit
    · next letter => exact bound 'f' (by decide) letter.2
    · split at digit
      · next letter => exact bound 'F' (by decide) letter.2
      · cases digit

-- What holds of all digits below 128 holds of all digits.
theorem digit_induction (motive : Char → Nat → Prop)
    (ascii : ∀ n < 128, ∀ value ∈ digitValue? (Char.ofNat n), motive (Char.ofNat n) value)
    (c : Char) (value : Nat) (digit : digitValue? c = some value) : motive c value := by
  rw [← Char.ofNat_toNat c] at digit ⊢
  exact ascii c.toNat (digit_ascii c value (Char.ofNat_toNat c ▸ digit)) value digit

theorem digit_stands (c : Char) (value : Nat) (digit : digitValue? c = some value) :
    value < 16 ∧ StandsFor c value :=
  digit_induction (fun c value => value < 16 ∧ StandsFor c value) (by decide +kernel) c value digit

theorem stands_digit (c : Char) (value : Nat) (stands : StandsFor c value) :
    digitValue? c = some value := by
  have table : ∀ digits ∈ [lowerDigits, upperDigits], ∀ place (inside : place < digits.length),
      digitValue? digits[place] = some place := by
    decide
  rcases stands with lower | upper
  · obtain ⟨inside, rfl⟩ := List.getElem?_eq_some_iff.mp lower
    exact table lowerDigits (by simp) value inside
  · obtain ⟨inside, rfl⟩ := List.getElem?_eq_some_iff.mp upper
    exact table upperDigits (by simp) value inside

/-! ## Pairs and the blanks around them -/

-- A pair of digits and the blanks behind it.
structure Group where
  high : Char
  low : Char
  gap : List Char

def Group.text (group : Group) : List Char := group.high :: group.low :: group.gap

def Group.Gives (group : Group) (byte : UInt8) : Prop :=
  (∀ c ∈ group.gap, c ∈ blanks) ∧
    ∃ upper lower, StandsFor group.high upper ∧ StandsFor group.low lower ∧
      byte.toNat = 16 * upper + lower

-- Blanks, and then groups, one for each byte in order.
def Grouped (text : List Char) (bytes : Bytes) : Prop :=
  ∃ lead groups, (∀ c ∈ lead, c ∈ blanks) ∧ text = lead ++ groups.flatMap Group.text ∧
    List.Forall₂ Group.Gives groups bytes

theorem spells_behind_blanks (run rest : List Char) (bytes : Bytes) (blank : ∀ c ∈ run, c ∈ blanks)
    (spelled : Spells rest bytes) : Spells (run ++ rest) bytes := by
  induction run with
  | nil => exact spelled
  | cons c run ih =>
      have first := (blank_listed c).mpr (blank c List.mem_cons_self)
      exact .blank c _ bytes first
        (ih fun other later => blank other (List.mem_cons_of_mem _ later))

theorem groups_spell (groups : List Group) (bytes : Bytes)
    (gives : List.Forall₂ Group.Gives groups bytes) :
    Spells (groups.flatMap Group.text) bytes := by
  induction gives with
  | nil => exact .nothing
  | @cons group byte groups bytes given _ ih =>
      obtain ⟨blank, upper, lower, high, low, value⟩ := given
      have same : UInt8.ofNat (upper * 16 + lower) = byte := by
        rw [Nat.mul_comm, ← value, UInt8.ofNat_toNat]
      have spelled := Spells.pair group.high group.low upper lower _ bytes
        (stands_digit _ _ high) (stands_digit _ _ low)
        (spells_behind_blanks group.gap _ bytes blank ih)
      rw [same] at spelled
      exact spelled

theorem spelled_groups (text : List Char) (bytes : Bytes) (spelled : Spells text bytes) :
    Grouped text bytes := by
  induction spelled with
  | nothing => exact ⟨[], [], List.forall_mem_nil _, rfl, .nil⟩
  | blank c rest bytes blank _ ih =>
      obtain ⟨lead, groups, leadBlank, rfl, gives⟩ := ih
      have first := (blank_listed c).mp blank
      exact ⟨c :: lead, groups, List.forall_mem_cons.mpr ⟨first, leadBlank⟩, rfl, gives⟩
  | pair high low upper lower rest bytes highDigit lowDigit _ ih =>
      obtain ⟨gap, groups, gapBlank, rfl, gives⟩ := ih
      obtain ⟨upperBound, highStands⟩ := digit_stands high upper highDigit
      obtain ⟨lowerBound, lowStands⟩ := digit_stands low lower lowDigit
      have value : (UInt8.ofNat (upper * 16 + lower)).toNat = 16 * upper + lower := by
        rw [UInt8.toNat_ofNat']
        omega
      exact ⟨[], ⟨high, low, gap⟩ :: groups, List.forall_mem_nil _, rfl,
        .cons ⟨gapBlank, upper, lower, highStands, lowStands, value⟩ gives⟩

theorem spells_iff_grouped (text : List Char) (bytes : Bytes) :
    Spells text bytes ↔ Grouped text bytes := by
  constructor
  · exact spelled_groups text bytes
  · rintro ⟨lead, groups, blank, rfl, gives⟩
    exact spells_behind_blanks lead _ bytes blank (groups_spell groups bytes gives)

/-! ## Marks -/

def marks : List (List Char) := [['0', 'x'], ['0', 'X']]

-- A text, and what is left of it behind its mark.
inductive Unmarked : List Char → List Char → Prop
  | marked (mark body : List Char) (known : mark ∈ marks) : Unmarked (mark ++ body) body
  | bare (body : List Char) (unmarked : ∀ mark ∈ marks, ¬ mark <+: body) : Unmarked body body

theorem strip_marker_iff (text body : List Char) :
    stripMarker text = body ↔ Unmarked text body := by
  constructor
  · rintro rfl
    unfold stripMarker
    split
    · next rest => exact .marked ['0', 'x'] rest (by decide)
    · next rest => exact .marked ['0', 'X'] rest (by decide)
    · next noSmall noCapital =>
        refine .bare text fun mark known => ?_
        simp only [marks, List.mem_cons, List.not_mem_nil, or_false] at known
        rcases known with rfl | rfl
        · rintro ⟨rest, rfl⟩
          exact noSmall rest rfl
        · rintro ⟨rest, rfl⟩
          exact noCapital rest rfl
  · intro left
    cases left with
    | marked mark body known =>
        simp only [marks, List.mem_cons, List.not_mem_nil, or_false] at known
        rcases known with rfl | rfl <;> rfl
    | bare body unmarked =>
        unfold stripMarker
        split
        · next rest => exact absurd ⟨rest, rfl⟩ (unmarked ['0', 'x'] (by decide))
        · next rest => exact absurd ⟨rest, rfl⟩ (unmarked ['0', 'X'] (by decide))
        · rfl

/-! ## Reading -/

-- The texts that spell bytes, told by their characters.
def Form (text : Text) (bytes : Bytes) : Prop :=
  ∃ chars body, text = Text.ofChars chars ∧ Unmarked chars body ∧ Grouped body bytes

theorem read_iff_form (text : Text) (bytes : Bytes) :
    read? text = some bytes ↔ Form text bytes := by
  simp only [read?, Option.bind_eq_bind, Option.bind_eq_some_iff]
  constructor
  · rintro ⟨chars, found, decoded⟩
    exact ⟨chars, stripMarker chars, (Text.chars_spell _ _ found).symm,
      (strip_marker_iff chars _).mp rfl,
      (spells_iff_grouped _ bytes).mp ((decode_iff_spells _ bytes).mp decoded)⟩
  · rintro ⟨chars, body, rfl, unmarked, grouped⟩
    refine ⟨chars, Text.chars_read_back chars, ?_⟩
    rw [(strip_marker_iff chars body).mpr unmarked]
    exact (decode_iff_spells body bytes).mpr ((spells_iff_grouped body bytes).mpr grouped)

/-! ## Writing -/

-- A digit that was written, in its own case or the other one.
def Recased (written c : Char) : Prop := c = written ∨ c = written.toUpper

theorem recased_digit (n : Nat) (small : n < 16) (c : Char) (recased : Recased (digit n) c) :
    digitValue? c = some n := by
  have table : ∀ n < 16, digitValue? (digit n).toUpper = some n := by decide
  rcases recased with rfl | rfl
  · exact digit_value n small
  · exact table n small

theorem recased_spells (bytes : Bytes) (body : List Char)
    (recased : List.Forall₂ Recased (encode bytes) body) : Spells body bytes := by
  induction bytes generalizing body with
  | nil =>
      cases recased
      exact .nothing
  | cons byte rest ih =>
      have bound := byte.toNat_lt
      have halves : UInt8.ofNat (byte.toNat / 16 * 16 + byte.toNat % 16) = byte := by
        rw [Nat.div_add_mod', UInt8.ofNat_toNat]
      cases recased with
      | cons high recased =>
          cases recased with
          | cons low recased =>
              have spelled := Spells.pair _ _ _ _ _ rest
                (recased_digit (byte.toNat / 16) (by omega) _ high)
                (recased_digit (byte.toNat % 16) (by omega) _ low) (ih _ recased)
              rw [halves] at spelled
              exact spelled

-- Lower-case text without blanks, behind the small mark.
def Canonical (text : Text) : Prop :=
  ∃ body, text = Text.ofChars ('0' :: 'x' :: body) ∧ ∀ c ∈ body, c ∉ blanks ∧ c.isUpper = false

theorem lower_digit (c : Char) (value : Nat) (digit : digitValue? c = some value)
    (lower : c.isUpper = false) : c = Hex.digit value :=
  digit_induction (fun c value => c.isUpper = false → c = Hex.digit value) (by decide +kernel)
    c value digit lower

theorem encode_lower (bytes : Bytes) : ∀ c ∈ encode bytes, c ∉ blanks ∧ c.isUpper = false := by
  have table : ∀ n < 16, digit n ∉ blanks ∧ (digit n).isUpper = false := by decide
  intro c member
  obtain ⟨byte, _, written⟩ := List.mem_flatMap.mp member
  have bound := byte.toNat_lt
  simp only [pair, List.mem_cons, List.not_mem_nil, or_false] at written
  rcases written with rfl | rfl
  · exact table _ (by omega)
  · exact table _ (by omega)

theorem lower_spelled (body : List Char) (bytes : Bytes) (spelled : Spells body bytes)
    (lower : ∀ c ∈ body, c ∉ blanks ∧ c.isUpper = false) : body = encode bytes := by
  induction spelled with
  | nothing => rfl
  | blank c rest bytes blank _ ih =>
      exact absurd ((blank_listed c).mp blank) (lower c List.mem_cons_self).1
  | pair high low upper lowValue rest bytes highDigit lowDigit _ ih =>
      simp only [List.forall_mem_cons] at lower
      obtain ⟨highLower, lowLower, restLower⟩ := lower
      have upperBound := (digit_stands high upper highDigit).1
      have lowBound := (digit_stands low lowValue lowDigit).1
      have value : (UInt8.ofNat (upper * 16 + lowValue)).toNat = upper * 16 + lowValue := by
        rw [UInt8.toNat_ofNat']
        omega
      have first : (upper * 16 + lowValue) / 16 = upper := by omega
      have second : (upper * 16 + lowValue) % 16 = lowValue := by omega
      rw [encode, List.flatMap_cons, ← encode, pair, value, first, second,
        ← lower_digit high upper highDigit highLower.2,
        ← lower_digit low lowValue lowDigit lowLower.2, ih restLower]
      rfl

theorem render_form (bytes : Bytes) :
    (render bytes : Text) = Text.ofChars ('0' :: 'x' :: encode bytes) := by
  rw [Text.ofString, render, String.toList_ofList]

theorem canonical_iff (bytes : Bytes) (text : Text) :
    Canonical text ∧ hexBytes text = .ok bytes ↔ text = render bytes := by
  have read : read? (Text.ofChars ('0' :: 'x' :: encode bytes)) = some bytes :=
    read_spelled ['0', 'x'] (encode bytes) bytes (by decide) (encode_spells bytes)
  rw [hex_bytes_ok_iff, render_form]
  constructor
  · rintro ⟨⟨body, rfl, lower⟩, found⟩
    rw [read?, Text.chars_read_back] at found
    rw [← lower_spelled body bytes ((decode_iff_spells body bytes).mp found) lower]
  · rintro rfl
    exact ⟨⟨encode bytes, rfl, encode_lower bytes⟩, read⟩

theorem hex_forms_exact (text : Text) (bytes : Bytes) :
    (hexBytes text = .ok bytes ↔ Form text bytes) ∧
    (∀ fault, hexBytes text = .error fault ↔
      (¬ ∃ spelled, Form text spelled) ∧ fault = .bytes (.notHex text)) ∧
    (∀ marker ∈ markers, ∀ body, List.Forall₂ Recased (encode bytes) body →
      hexBytes (Text.ofChars (marker ++ body)) = .ok bytes) ∧
    hexBytes (render bytes) = .ok bytes ∧
    ∀ other, Canonical other ∧ hexBytes other = .ok bytes ↔ other = render bytes := by
  refine ⟨?_, fun fault => ?_, fun marker known body recased => ?_, ?_, canonical_iff bytes⟩
  · rw [hex_bytes_ok_iff, read_iff_form]
  · simp only [hex_bytes_error_iff, Option.eq_none_iff_forall_ne_some, ne_eq, read_iff_form,
      not_exists]
  · rw [hex_bytes_ok_iff]
    exact read_spelled marker body bytes known (recased_spells bytes body recased)
  · exact ((canonical_iff bytes _).mpr rfl).2

def nearForms : List Text := ["0x0 a", " 0x0a", "0x0x0a", "0x0", "0xg0"]

-- Blanks stand around pairs, neither inside one nor in front of the mark, and there is one mark.
theorem recorded_hex_forms :
    hexBytes "0X 0a\tfF\n" = .ok [10, 255] ∧
      hexBytes (Text.ofChars ['0', 'X', '0', 'A', 'f', 'F']) = .ok [10, 255] ∧
      ∀ text ∈ nearForms, ¬ ∃ spelled, Form text spelled := by
  have single (c : Char) (blank : c ∈ blanks) : ∀ other ∈ [c], other ∈ blanks :=
    List.forall_mem_singleton.mpr blank
  have form : Form "0X 0a\tfF\n" [10, 255] :=
    ⟨"0X 0a\tfF\n".toList, " 0a\tfF\n".toList, rfl, .marked ['0', 'X'] _ (by decide), [' '],
      [⟨'0', 'a', ['\t']⟩, ⟨'f', 'F', ['\n']⟩], single ' ' (by decide), rfl,
      .cons ⟨single '\t' (by decide), 0, 10, by decide, by decide, rfl⟩
        (.cons ⟨single '\n' (by decide), 15, 15, by decide, by decide, rfl⟩ .nil)⟩
  have recased : List.Forall₂ Recased (encode [10, 255]) ['0', 'A', 'f', 'F'] :=
    .cons (.inl rfl) (.cons (.inr rfl) (.cons (.inl rfl) (.cons (.inr rfl) .nil)))
  have refused : ∀ text ∈ nearForms, (hexBytes text).toOption = none := by decide
  refine ⟨(hex_forms_exact _ _).1.mpr form,
    (hex_forms_exact [] [10, 255]).2.2.1 ['0', 'X'] (by decide) _ recased, ?_⟩
  rintro text member ⟨spelled, near⟩
  have empty := refused text member
  rw [(hex_forms_exact text spelled).1.mpr near] at empty
  cases empty

end KeyCustody.Hex
