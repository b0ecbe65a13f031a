import KeyCustody.Json.Reader
import KeyCustody.Json.Writer
import KeyCustody.Proofs.Hex

/-!
What is written as JSON reads back. Text of characters survives its escapes, those of two parts
included, and so do the records that hold such text, truth values and further records.
-/

set_option autoImplicit false

namespace KeyCustody

namespace CodePoint

theorem code_of_half_code (n : Nat) (above : 0xd800 ≤ n) (below : n < 0xe000) :
    (ofCode n).code = n := by
  rw [ofCode, dif_pos ⟨above, below⟩, code, firstHalf]
  simp only
  omega

end CodePoint

namespace Json

/-! ## Escapes -/

theorem hex4_digits (n : Nat) (small : n < 0x10000) :
    ∃ a b c d, Value.hexDigits 4 n = [a, b, c, d] ∧ hex4? a b c d = some n := by
  refine ⟨Hex.digit (n / 16 / 16 / 16 % 16), Hex.digit (n / 16 / 16 % 16), Hex.digit (n / 16 % 16),
    Hex.digit (n % 16), rfl, ?_⟩
  have digits (k : Nat) : Hex.digitValue? (Hex.digit (k % 16)) = some (k % 16) :=
    Hex.digit_value _ (Nat.mod_lt k (by decide))
  rw [hex4?, digits, digits, digits, digits]
  simp only [Option.bind_eq_bind, Option.bind_some, pure]
  congr 1
  omega

theorem read_unit (n : Nat) (small : n < 0x10000) (tail : List Char) :
    readPoints (escapeUnit n ++ tail) = prepend (.ofCode n) (readPoints tail) := by
  obtain ⟨a, b, c, d, digits, value⟩ := hex4_digits n small
  rw [escapeUnit, digits]
  simp only [List.cons_append, List.nil_append, readPoints, value]

-- The code points that the escape of a character names: a character beyond the basic plane is
-- named by both halves of its surrogate pair.
def named (c : Char) : Text :=
  if c.toNat < 0x10000 then [.char c]
  else [.ofCode (0xd800 + (c.toNat - 0x10000) / 1024),
    .ofCode (0xdc00 + (c.toNat - 0x10000) % 1024)]

def prependAll (points : Text) (read : Option (Text × List Char)) : Option (Text × List Char) :=
  read.map fun (text, rest) => (points ++ text, rest)

theorem read_unescaped (c : Char) (visible : 32 ≤ c.toNat) (noQuote : c ≠ '"')
    (noBackslash : c ≠ '\\') (tail : List Char) :
    readPoints (c :: tail) = prepend (.char c) (readPoints tail) := by
  rw [readPoints.eq_def]
  split
  · next here => cases here
  · next here => exact absurd (List.cons.inj here).1 noQuote
  · next here => exact absurd (List.cons.inj here).1 noBackslash
  · next here => exact absurd (List.cons.inj here).1 noBackslash
  · next _ _ _ here =>
      obtain ⟨rfl, rfl⟩ := List.cons.inj here
      rw [if_neg (by omega)]

theorem char_bound (c : Char) : c.toNat < 0x110000 := by
  have valid := c.valid
  simp only [UInt32.isValidChar, Nat.isValidChar] at valid
  change c.val.toNat < _
  omega

theorem of_code_char (c : Char) : CodePoint.ofCode c.toNat = .char c :=
  CodePoint.of_code_code (.char c)

theorem read_escaped (c : Char) (tail : List Char) :
    readPoints (escapeChar c ++ tail) = prependAll (named c) (readPoints tail) := by
  rw [escapeChar]
  split
  · next same =>
      rw [same]
      rfl
  · next noQuote =>
      split
      · next same =>
          rw [same]
          rfl
      · next noBackslash =>
          -- Five more characters have a short escape of their own.
          iterate 5
            split
            · next same =>
                rw [same]
                rfl
          split
          · next visible =>
              rw [named, if_pos (by omega)]
              exact read_unescaped c visible.1 noQuote noBackslash tail
          · split
            · next basic =>
                rw [named, if_pos basic, read_unit _ basic, of_code_char]
                rfl
            · next beyond =>
                have bound := char_bound c
                rw [named, if_neg beyond, List.append_assoc, read_unit _ (by omega),
                  read_unit _ (by omega)]
                cases readPoints tail <;> rfl

-- Joining puts the halves back together and leaves everything else alone.
theorem join_named (c : Char) (rest : Text) :
    joinHalves (named c ++ rest) = .char c :: joinHalves rest := by
  rw [named]
  split
  · have whole := CodePoint.code_char_bounds c
    rw [List.singleton_append]
    cases rest with
    | nil => rfl
    | cons next rest =>
        rw [joinHalves, if_neg]
        simp only [isHighSurrogate, Bool.and_eq_true, decide_eq_true_eq]
        omega
  · next beyond =>
      have bound := char_bound c
      have high : (CodePoint.ofCode (0xd800 + (c.toNat - 0x10000) / 1024)).code =
          0xd800 + (c.toNat - 0x10000) / 1024 :=
        CodePoint.code_of_half_code _ (by omega) (by omega)
      have low : (CodePoint.ofCode (0xdc00 + (c.toNat - 0x10000) % 1024)).code =
          0xdc00 + (c.toNat - 0x10000) % 1024 :=
        CodePoint.code_of_half_code _ (by omega) (by omega)
      rw [List.cons_append, List.cons_append, List.nil_append, joinHalves, high, low, if_pos]
      · rw [show 0x10000 + (0xd800 + (c.toNat - 0x10000) / 1024 - 0xd800) * 1024 +
            (0xdc00 + (c.toNat - 0x10000) % 1024 - 0xdc00) = c.toNat by omega, of_code_char]
      · simp only [isHighSurrogate, isLowSurrogate, Bool.and_eq_true, decide_eq_true_eq]
        omega

theorem read_points_escaped (chars tail : List Char) :
    readPoints (chars.flatMap escapeChar ++ '"' :: tail) = some (chars.flatMap named, tail) := by
  induction chars with
  | nil => rfl
  | cons c rest ih =>
      rw [List.flatMap_cons, List.append_assoc, read_escaped, ih]
      rfl

theorem join_all_named (chars : List Char) :
    joinHalves (chars.flatMap named) = Text.ofChars chars := by
  induction chars with
  | nil => rfl
  | cons c rest ih =>
      rw [List.flatMap_cons, join_named, ih]
      rfl

theorem read_text_quoted (rules : Rules) (chars tail : List Char) :
    readText rules (chars.flatMap escapeChar ++ '"' :: tail) = some (Text.ofChars chars, tail) := by
  have whole := (Text.whole_iff _).mp ⟨chars, rfl⟩
  rw [readText, read_points_escaped]
  simp only [Option.bind_eq_bind, Option.bind_some, join_all_named, whole, Bool.false_and,
    Bool.false_eq_true, if_false, pure]

theorem quote_chars (chars : List Char) :
    quote (Text.ofChars chars) = '"' :: (chars.flatMap escapeChar ++ ['"']) := by
  rw [quote, Text.ofChars, List.flatMap_map]
  rfl

/-! ## Values -/

-- Blanks may stand behind a comma and behind a colon.
structure Spaced (style : Style) : Prop where
  comma : ∃ blanks, (∀ c ∈ blanks, isSpace c = true) ∧ style.comma = ',' :: blanks
  colon : ∃ blanks, (∀ c ∈ blanks, isSpace c = true) ∧ style.colon = ':' :: blanks

theorem nothing_blank : ∀ c ∈ ([] : List Char), isSpace c = true := List.forall_mem_nil _

theorem space_blank : ∀ c ∈ [' '], isSpace c = true := List.forall_mem_singleton.mpr rfl

theorem compact_spaced : Spaced compact := ⟨⟨[], nothing_blank, rfl⟩, ⟨[], nothing_blank, rfl⟩⟩

theorem spaced_spaced : Spaced spaced := ⟨⟨[' '], space_blank, rfl⟩, ⟨[' '], space_blank, rfl⟩⟩

theorem skip_blanks (blanks text : List Char) (blank : ∀ c ∈ blanks, isSpace c = true) :
    skipSpace (blanks ++ text) = skipSpace text :=
  List.dropWhile_append_of_pos blank

theorem read_value_behind (rules : Rules) (fuel depth : Nat) (blanks text : List Char)
    (blank : ∀ c ∈ blanks, isSpace c = true) :
    readValue rules fuel depth (blanks ++ text) = readValue rules fuel depth text := by
  cases fuel with
  | zero => rw [readValue, readValue]
  | succ fuel => rw [readValue, readValue, skip_blanks blanks text blank]

theorem read_entries_behind (rules : Rules) (fuel depth : Nat) (blanks text : List Char)
    (blank : ∀ c ∈ blanks, isSpace c = true) :
    readEntries rules fuel depth (blanks ++ text) = readEntries rules fuel depth text := by
  cases fuel with
  | zero => rw [readEntries, readEntries]
  | succ fuel => rw [readEntries, readEntries, skip_blanks blanks text blank]

abbrev Members := List (List Char × Value)

def Members.entries (members : Members) : Value.Entries :=
  members.map fun member => (.text (Text.ofChars member.1), member.2)

-- Values that are nothing but text of characters, truth values and mappings of such, and no deeper
-- than a count.
inductive Plain : Nat → Value → Prop
  | text (depth : Nat) (chars : List Char) : Plain depth (.text (Text.ofChars chars))
  | truth (depth : Nat) (b : Bool) : Plain depth (.bool b)
  | mapping (depth : Nat) (members : Members)
      (values : ∀ member ∈ members, Plain depth member.2) :
      Plain (depth + 1) (.mapping members.entries)

variable {style : Style} (rules : Rules)

theorem read_member (spaced : Spaced style) (fuel depth : Nat) (name : List Char) (value : Value)
    (tail : List Char)
    (read : readValue rules fuel depth (write style value ++ tail) = .ok (value, tail)) :
    readEntries rules (fuel + 1) depth
        (member style (Text.ofChars name) (write style value) ++ tail) =
      match skipSpace tail with
      | ',' :: rest => do
        let (entries, rest) ← readEntries rules fuel depth rest
        return ((Value.text (Text.ofChars name), value) :: entries, rest)
      | '\x7d' :: rest => return ([(Value.text (Text.ofChars name), value)], rest)
      | _ => .error .malformed := by
  obtain ⟨blanks, blank, colon⟩ := spaced.colon
  have told : member style (Text.ofChars name) (write style value) ++ tail =
      '"' :: (name.flatMap escapeChar ++
        '"' :: ':' :: (blanks ++ (write style value ++ tail))) := by
    rw [member, quote_chars, colon]
    simp only [List.cons_append, List.append_assoc, List.nil_append]
  rw [told, readEntries]
  change (orMalformed (readText rules _) >>= _) = _
  rw [read_text_quoted]
  change (readValue rules fuel depth _ >>= _) = _
  rw [read_value_behind rules fuel depth blanks _ blank, read]
  rfl

theorem member_longer (style : Style) (name : Text) (value : List Char) :
    value.length < (member style name value).length := by
  rw [member, quote]
  simp only [List.length_append, List.length_cons]
  omega

def written (style : Style) (members : Members) : List Char :=
  join style.comma (writeEntries style members.entries)

theorem written_one (style : Style) (name : List Char) (value : Value) :
    written style [(name, value)] = member style (Text.ofChars name) (write style value) := rfl

theorem written_more (style : Style) (name : List Char) (value : Value)
    (second : List Char × Value) (rest : Members) :
    written style ((name, value) :: second :: rest) =
      member style (Text.ofChars name) (write style value) ++ style.comma ++
        written style (second :: rest) := rfl

-- Each member needs one step more than what it leaves, and the text is longer than that.
theorem read_members (spaced : Spaced style) (depth : Nat) (members : Members)
    (occupied : members ≠ [])
    (values : ∀ member ∈ members, ∀ fuel tail, (write style member.2).length < fuel →
      readValue rules fuel depth (write style member.2 ++ tail) = .ok (member.2, tail))
    (fuel : Nat) (tail : List Char) (enough : (written style members).length < fuel) :
    readEntries rules fuel depth (written style members ++ '\x7d' :: tail) =
      .ok (members.entries, tail) := by
  induction members generalizing fuel with
  | nil => exact absurd rfl occupied
  | cons first rest ih =>
      obtain ⟨name, value⟩ := first
      have valueRead : ∀ fuel tail, (write style value).length < fuel →
          readValue rules fuel depth (write style value ++ tail) = .ok (value, tail) :=
        values (name, value) List.mem_cons_self
      cases rest with
      | nil =>
          rw [written_one] at enough ⊢
          cases fuel with
          | zero => cases enough
          | succ fuel =>
              have longer := member_longer style (Text.ofChars name) (write style value)
              rw [read_member rules spaced fuel depth name value _ (valueRead _ _ (by omega))]
              rfl
      | cons second rest =>
          obtain ⟨blanks, blank, comma⟩ := spaced.comma
          have split : written style ((name, value) :: second :: rest) =
              member style (Text.ofChars name) (write style value) ++
                ',' :: (blanks ++ written style (second :: rest)) := by
            rw [written_more, comma]
            simp only [List.append_assoc, List.cons_append]
          rw [split] at enough ⊢
          simp only [List.length_append, List.length_cons] at enough
          cases fuel with
          | zero => cases enough
          | succ fuel =>
              have longer := member_longer style (Text.ofChars name) (write style value)
              have further := ih (List.cons_ne_nil _ _)
                (fun other later => values other (List.mem_cons_of_mem _ later)) fuel (by omega)
              rw [List.append_assoc, read_member rules spaced fuel depth name value _
                (valueRead _ _ (by omega))]
              change (readEntries rules fuel depth ((blanks ++ written style (second :: rest)) ++ _)
                >>= _) = _
              rw [List.append_assoc, read_entries_behind rules fuel depth blanks _ blank, further]
              rfl

theorem written_head (style : Style) (members : Members) (occupied : members ≠ []) :
    ∃ rest, written style members = '"' :: rest := by
  cases members with
  | nil => exact absurd rfl occupied
  | cons first rest =>
      obtain ⟨name, value⟩ := first
      have started : ∃ text,
          member style (Text.ofChars name) (write style value) = '"' :: text := by
        rw [member, quote_chars]
        exact ⟨_, rfl⟩
      obtain ⟨text, starts⟩ := started
      cases rest with
      | nil => exact ⟨text, starts⟩
      | cons second rest =>
          refine ⟨text ++ style.comma ++ written style (second :: rest), ?_⟩
          rw [written_more, starts]
          rfl

theorem read_plain (spaced : Spaced style) (depth : Nat) (value : Value) (plain : Plain depth value)
    (fuel limit : Nat) (tail : List Char) (deep : depth ≤ limit)
    (enough : (write style value).length < fuel) :
    readValue rules fuel limit (write style value ++ tail) = .ok (value, tail) := by
  induction plain generalizing fuel limit tail with
  | text depth chars =>
      cases fuel with
      | zero => cases enough
      | succ fuel =>
          rw [write, quote_chars, readValue]
          change (orMalformed (readText rules ((chars.flatMap escapeChar ++ ['"']) ++ tail))
            >>= _) = _
          rw [List.append_assoc, List.singleton_append, read_text_quoted]
          rfl
  | truth depth b =>
      cases fuel with
      | zero => cases enough
      | succ fuel =>
          cases b with
          | true => rfl
          | false => rfl
  | mapping depth members values ih =>
      have shown : write style (.mapping members.entries) ++ tail =
          '\x7b' :: (written style members ++ '\x7d' :: tail) := by
        rw [write, written]
        simp only [List.cons_append, List.append_assoc, List.nil_append]
      have size : (write style (.mapping members.entries)).length =
          (written style members).length + 2 := by
        rw [write, written]
        simp only [List.length_cons, List.length_append, List.length_nil]
      rw [size] at enough
      cases fuel with
      | zero => cases enough
      | succ fuel =>
          rw [shown]
          by_cases empty : members = []
          · rw [empty]
            rfl
          · obtain ⟨rest, starts⟩ := written_head style members empty
            have entries := read_members rules spaced (limit - 1) members empty
              (fun member there fuel tail enough => ih member there fuel (limit - 1) tail (by omega)
                enough) fuel tail (by omega)
            rw [starts] at entries ⊢
            have nested : limit ≠ 0 := by omega
            change (if limit = 0 then _ else Except.map _ (readEntries rules fuel (limit - 1)
              ('"' :: rest ++ '\x7d' :: tail))) = _
            rw [if_neg nested, entries]
            rfl

theorem read_written (spaced : Spaced style) (depth : Nat) (value : Value)
    (plain : Plain depth value) (deep : depth ≤ rules.depth) :
    read rules (write style value) = .ok value := by
  have told := read_plain rules spaced depth value plain ((write style value).length + 1)
    rules.depth [] deep (by omega)
  rw [List.append_nil] at told
  rw [read, told]
  rfl

end Json

end KeyCustody
