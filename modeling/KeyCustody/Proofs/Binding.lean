import KeyCustody.Proofs.Merkle
import Mathlib.Algebra.Group.Nat.Defs

/-!
Merkle roots bind what they are made of: two computations of one shape that end in the same root
start from the same chunks, or two different strings that they hash have the same digest. The
strings are taken from the two computations themselves, since some collision exists anyway.
-/

set_option autoImplicit false

namespace KeyCustody

theorem little_endian_injective (width a b : Nat) (aFits : a < 256 ^ width)
    (bFits : b < 256 ^ width)
    (same : Bytes.littleEndian width a = Bytes.littleEndian width b) : a = b := by
  induction width generalizing a b with
  | zero =>
      rw [Nat.pow_zero] at aFits bFits
      omega
  | succ width ih =>
      rw [Nat.pow_succ] at aFits bFits
      obtain ⟨low, high⟩ := List.cons.inj same
      have highSame := ih (a / 256) (b / 256) (by omega) (by omega) high
      have lowSame := congrArg UInt8.toNat low
      simp only [UInt8.toNat_ofNat'] at lowSame
      omega

namespace Merkle

-- Two different strings of two chunks each, one from either list, with the same digest.
def Collision (first second : List Bytes) : Prop :=
  ∃ a ∈ first, ∃ b ∈ second, a.length = 64 ∧ b.length = 64 ∧ a ≠ b ∧ sha256 a = sha256 b

instance (first second : List Bytes) : Decidable (Collision first second) :=
  inferInstanceAs (Decidable (∃ a ∈ first, ∃ b ∈ second,
    a.length = 64 ∧ b.length = 64 ∧ a ≠ b ∧ sha256 a = sha256 b))

theorem Collision.widen (first second wider other : List Bytes) (collision : Collision first second)
    (firstInside : first ⊆ wider) (secondInside : second ⊆ other) : Collision wider other := by
  obtain ⟨a, aMember, b, bMember, distinct⟩ := collision
  exact ⟨a, firstInside aMember, b, secondInside bMember, distinct⟩

/-! ## One level -/

-- The strings that are hashed to go up one level.
def pairs : List Bytes → List Bytes
  | left :: right :: rest => (left ++ right) :: pairs rest
  | _ => []

theorem pairs_length (level : List Bytes) (half : Nat) (even : level.length = 2 * half) :
    (pairs level).length = half := by
  induction half generalizing level with
  | zero =>
      rw [List.length_eq_zero_iff.mp even]
      rfl
  | succ half ih =>
      match level, even with
      | left :: right :: rest, even =>
          have shorter : rest.length = 2 * half := by
            simp only [List.length_cons] at even
            omega
          rw [pairs, List.length_cons, ih rest shorter]

theorem pair_up_digests (level : List Bytes) (half : Nat) (even : level.length = 2 * half) :
    pairUp level = (pairs level).map sha256 := by
  induction half generalizing level with
  | zero =>
      rw [List.length_eq_zero_iff.mp even]
      rfl
  | succ half ih =>
      match level, even with
      | left :: right :: rest, even =>
          have shorter : rest.length = 2 * half := by
            simp only [List.length_cons] at even
            omega
          rw [pairUp, pairs, List.map_cons, ih rest shorter]

theorem pair_up_length (level : List Bytes) (half : Nat) (even : level.length = 2 * half) :
    (pairUp level).length = half := by
  rw [pair_up_digests level half even, List.length_map, pairs_length level half even]

theorem chunk_pair (left right otherLeft otherRight : Bytes) (sized : Chunks [left, right])
    (otherSized : Chunks [otherLeft, otherRight])
    (same : sha256 (left ++ right) = sha256 (otherLeft ++ otherRight)) :
    (left = otherLeft ∧ right = otherRight) ∨
      Collision [left ++ right] [otherLeft ++ otherRight] := by
  have leftSize : left.length = 32 := sized left (by simp)
  have rightSize : right.length = 32 := sized right (by simp)
  have otherLeftSize : otherLeft.length = 32 := otherSized otherLeft (by simp)
  have otherRightSize : otherRight.length = 32 := otherSized otherRight (by simp)
  by_cases joined : left ++ right = otherLeft ++ otherRight
  · exact Or.inl (List.append_inj joined (by omega))
  · refine Or.inr ⟨_, List.mem_singleton_self _, _, List.mem_singleton_self _, ?_, ?_, joined, same⟩
    · rw [List.length_append, leftSize, rightSize]
    · rw [List.length_append, otherLeftSize, otherRightSize]

theorem pair_up_binds (first second : List Bytes) (half : Nat) (firstSized : Chunks first)
    (secondSized : Chunks second) (firstEven : first.length = 2 * half)
    (secondEven : second.length = 2 * half) (same : pairUp first = pairUp second) :
    first = second ∨ Collision (pairs first) (pairs second) := by
  induction half generalizing first second with
  | zero =>
      rw [List.length_eq_zero_iff.mp firstEven, List.length_eq_zero_iff.mp secondEven]
      exact Or.inl rfl
  | succ half ih =>
      match first, second, firstEven, secondEven with
      | left :: right :: rest, otherLeft :: otherRight :: otherRest, firstEven, secondEven =>
          simp only [List.length_cons] at firstEven secondEven
          obtain ⟨head, tail⟩ := List.cons.inj same
          have pairSized : Chunks [left, right] := fun chunk member =>
            firstSized chunk (List.mem_append_left rest member)
          have otherPairSized : Chunks [otherLeft, otherRight] := fun chunk member =>
            secondSized chunk (List.mem_append_left otherRest member)
          rcases chunk_pair left right otherLeft otherRight pairSized otherPairSized head with
            ⟨rfl, rfl⟩ | collision
          · rcases ih rest otherRest (fun chunk member => firstSized chunk (by simp [member]))
              (fun chunk member => secondSized chunk (by simp [member])) (by omega) (by omega)
              tail with rfl | collision
            · exact Or.inl rfl
            · exact Or.inr (collision.widen _ _ _ _ (List.subset_cons_self _ _)
                (List.subset_cons_self _ _))
          · exact Or.inr (collision.widen _ _ _ _ (by simp [pairs]) (by simp [pairs]))

/-! ## All levels -/

-- The strings that are hashed to go up a number of levels.
def hashedBelow : Nat → List Bytes → List Bytes
  | 0, _ => []
  | depth + 1, level => pairs level ++ hashedBelow depth (pairUp level)

theorem climb_binds (depth : Nat) (first second : List Bytes) (firstSized : Chunks first)
    (secondSized : Chunks second) (firstWidth : first.length = 2 ^ depth)
    (secondWidth : second.length = 2 ^ depth) (same : climb depth first = climb depth second) :
    first = second ∨ Collision (hashedBelow depth first) (hashedBelow depth second) := by
  induction depth generalizing first second with
  | zero =>
      obtain ⟨chunk, rfl⟩ := List.length_eq_one_iff.mp firstWidth
      obtain ⟨other, rfl⟩ := List.length_eq_one_iff.mp secondWidth
      exact Or.inl (congrArg (fun chunk => [chunk]) same)
  | succ depth ih =>
      rw [Nat.pow_succ, Nat.mul_comm] at firstWidth secondWidth
      -- The levels above agree first, and then the level itself.
      rcases ih (pairUp first) (pairUp second) (pair_up_chunks first firstSized)
        (pair_up_chunks second secondSized) (pair_up_length first _ firstWidth)
        (pair_up_length second _ secondWidth) same with above | collision
      · rcases pair_up_binds first second _ firstSized secondSized firstWidth secondWidth above with
          level | collision
        · exact Or.inl level
        · exact Or.inr (collision.widen _ _ _ _ (List.subset_append_left _ _)
            (List.subset_append_left _ _))
      · exact Or.inr (collision.widen _ _ _ _ (List.subset_append_right _ _)
          (List.subset_append_right _ _))

/-! ## Whole trees -/

theorem next_power_bound (count : Nat) : count ≤ nextPowerOfTwo count := by
  rw [nextPowerOfTwo]
  split
  · omega
  · have above := Nat.lt_log2_self (n := ((count : Int).toNat - 1))
    rw [Nat.pow_eq]
    omega

theorem next_power_depth (count : Nat) :
    nextPowerOfTwo count = 2 ^ (nextPowerOfTwo count).log2 := by
  rw [nextPowerOfTwo]
  split
  · rfl
  · rw [Nat.pow_eq, Nat.log2_two_pow]

theorem padded_length (chunks : List Bytes) :
    (padded chunks).length = nextPowerOfTwo chunks.length := by
  have room := next_power_bound chunks.length
  rw [padded, List.length_append, List.length_replicate]
  omega

-- The strings that are hashed on the way to the root of chunks.
def hashed (chunks : List Bytes) : List Bytes :=
  hashedBelow (nextPowerOfTwo chunks.length).log2 (padded chunks)

theorem top_binds (first second : List Bytes) (firstSized : Chunks first)
    (secondSized : Chunks second)
    (width : nextPowerOfTwo first.length = nextPowerOfTwo second.length)
    (same : top first = top second) :
    padded first = padded second ∨ Collision (hashed first) (hashed second) := by
  rw [top, top, width] at same
  rw [hashed, hashed, width]
  apply climb_binds _ _ _ (padded_chunks first firstSized) (padded_chunks second secondSized) ?_ ?_
    same
  · rw [padded_length, width]
    exact next_power_depth second.length
  · rw [padded_length]
    exact next_power_depth second.length

theorem top_binds_chunks (first second : List Bytes) (firstSized : Chunks first)
    (secondSized : Chunks second) (length : first.length = second.length)
    (same : top first = top second) :
    first = second ∨ Collision (hashed first) (hashed second) := by
  have width : nextPowerOfTwo first.length = nextPowerOfTwo second.length := by rw [length]
  rcases top_binds first second firstSized secondSized width same with joined | collision
  · exact Or.inl (List.append_inj_left joined length)
  · exact Or.inr collision

/-! ## Byte strings -/

-- The first chunks joined are the first bytes; zeros follow once the bytes end.
theorem first_chunks_joined (data : Bytes) (count : Nat) :
    ((List.range count).map fun i =>
        Bytes.padTo chunkSize ((data.drop (chunkSize * i)).take chunkSize)).flatten =
      Bytes.padTo (chunkSize * count) (data.take (chunkSize * count)) := by
  induction count with
  | zero => simp [Bytes.padTo, Bytes.zeros]
  | succ count ih =>
      rw [List.range_succ, List.map_append, List.flatten_append, ih, List.map_singleton,
        List.flatten_singleton, Bytes.padTo, Bytes.padTo, Bytes.padTo]
      by_cases inside : chunkSize * count ≤ data.length
      · have joined : data.take (chunkSize * count) ++
            (data.drop (chunkSize * count)).take chunkSize =
              data.take (chunkSize * (count + 1)) := by
          rw [Nat.mul_succ, List.take_add]
        have full : (data.take (chunkSize * count)).length = chunkSize * count := by
          rw [List.length_take]
          omega
        rw [full, Nat.sub_self, Bytes.zeros, List.replicate_zero, List.append_nil,
          ← List.append_assoc, joined]
        congr 2
        simp only [List.length_take, List.length_drop]
        rw [Nat.mul_succ]
        omega
      · have ended : data.length ≤ chunkSize * count := by omega
        have wider : data.length ≤ chunkSize * (count + 1) := by
          rw [Nat.mul_succ]
          omega
        rw [List.take_of_length_le ended, List.take_of_length_le wider,
          List.drop_of_length_le ended, List.take_nil, List.nil_append, List.append_assoc,
          Bytes.zeros, Bytes.zeros, List.replicate_append_replicate]
        congr 2
        rw [Nat.mul_succ, List.length_nil]
        omega

theorem chunk_count_bound (length : Nat) : length ≤ chunkSize * chunkCount length := by
  simp only [chunkCount, chunkSize]
  omega

theorem pack_joined (data : Bytes) :
    (pack data).flatten = Bytes.padTo (chunkSize * chunkCount data.length) data := by
  rw [pack, first_chunks_joined, List.take_of_length_le (chunk_count_bound data.length)]

theorem pack_injective (first second : Bytes) (length : first.length = second.length)
    (same : pack first = pack second) : first = second := by
  have joined := congrArg List.flatten same
  rw [pack_joined, pack_joined, Bytes.padTo, Bytes.padTo] at joined
  exact List.append_inj_left joined length

def bytesHashed (data : Bytes) : List Bytes := hashed (pack data)

theorem bytes_top_binds (first second : Bytes) (length : first.length = second.length)
    (same : bytesTop first = bytesTop second) :
    first = second ∨ Collision (bytesHashed first) (bytesHashed second) := by
  have count : (pack first).length = (pack second).length := by
    rw [pack, pack, List.length_map, List.length_map, length]
  rcases top_binds_chunks (pack first) (pack second) (pack_chunks first) (pack_chunks second) count
    same with packed | collision
  · exact Or.inl (pack_injective first second length packed)
  · exact Or.inr collision

/-! ## Records of two byte strings -/

theorem pair_width (left right : Bytes) : nextPowerOfTwo [left, right].length = 2 := by
  have two : nextPowerOfTwo 2 = 2 := by decide +kernel
  exact two

theorem top_pair (left right : Bytes) : top [left, right] = sha256 (left ++ right) := by
  have full : padded [left, right] = [left, right] := by
    rw [padded, pair_width]
    rfl
  have depth : Nat.log2 2 = 1 := by decide +kernel
  rw [top, pair_width, full, depth]
  rfl

def recordHashed (first second : Bytes) : List Bytes :=
  (bytesTop first ++ bytesTop second) :: (bytesHashed first ++ bytesHashed second)

theorem record_top_binds (first second other another : Bytes)
    (firstLength : first.length = other.length) (secondLength : second.length = another.length)
    (same : recordTop first second = recordTop other another) :
    (first = other ∧ second = another) ∨
      Collision (recordHashed first second) (recordHashed other another) := by
  rw [recordTop, recordTop, top_pair, top_pair] at same
  rcases chunk_pair _ _ _ _ (record_chunks first second) (record_chunks other another) same with
    ⟨firstTop, secondTop⟩ | collision
  · rcases bytes_top_binds first other firstLength firstTop with firstSame | collision
    · rcases bytes_top_binds second another secondLength secondTop with secondSame | collision
      · exact Or.inl ⟨firstSame, secondSame⟩
      · exact Or.inr (collision.widen _ _ _ _ (by simp [recordHashed]) (by simp [recordHashed]))
    · exact Or.inr (collision.widen _ _ _ _ (by simp [recordHashed]) (by simp [recordHashed]))
  · exact Or.inr (collision.widen _ _ _ _ (by simp [recordHashed]) (by simp [recordHashed]))

end Merkle

end KeyCustody
