import KeyCustody.Proofs.Tree
import Mathlib.Algebra.Order.Floor.Div

/-!
Roots of byte vectors as trees of bytes. The zeros that fill the last chunk and the chunks that fill
the tree are one run of zeros behind the bytes, so the root is told by halves of that longer string,
and zeros added behind the bytes do not show before the tree grows.
-/

set_option autoImplicit false

namespace KeyCustody.Merkle

/-! ## Chunks -/

-- What the chunks of a byte string have to be.
structure Packed (data : Bytes) (chunks : List Bytes) : Prop where
  sized : Chunks chunks
  count : chunks.length = max 1 (data.length ⌈/⌉ chunkSize)
  joined : ∃ filler, chunks.flatten = data ++ Bytes.zeros filler

theorem pack_length (data : Bytes) : (pack data).length = chunkCount data.length := by
  rw [pack, List.length_map, List.length_range]

theorem chunk_count_ceil (length : Nat) : chunkCount length = max 1 (length ⌈/⌉ chunkSize) := by
  rw [Nat.ceilDiv_eq_add_pred_div]
  rfl

theorem pack_packed (data : Bytes) : Packed data (pack data) where
  sized := pack_chunks data
  count := (pack_length data).trans (chunk_count_ceil data.length)
  joined := ⟨_, pack_joined data⟩

theorem joined_length (chunks : List Bytes) (sized : Chunks chunks) :
    chunks.flatten.length = chunkSize * chunks.length := by
  induction chunks with
  | nil => rfl
  | cons chunk rest ih =>
      have first := sized chunk List.mem_cons_self
      have others := ih fun other later => sized other (List.mem_cons_of_mem _ later)
      rw [List.flatten_cons, List.length_append, first, others, List.length_cons, Nat.mul_succ]
      omega

-- Between two chunks, the bytes are parted as the chunks are.
theorem joined_parts (chunks : List Bytes) (sized : Chunks chunks) (count : Nat)
    (within : count ≤ chunks.length) :
    chunks.flatten.take (chunkSize * count) = (chunks.take count).flatten ∧
      chunks.flatten.drop (chunkSize * count) = (chunks.drop count).flatten := by
  have parted : chunks.flatten = (chunks.take count).flatten ++ (chunks.drop count).flatten := by
    rw [← List.flatten_append, List.take_append_drop]
  have length : (chunks.take count).flatten.length = chunkSize * count := by
    rw [joined_length _ fun chunk member => sized chunk (List.mem_of_mem_take member),
      List.length_take, Nat.min_eq_left within]
  rw [parted]
  exact ⟨List.take_left' length, List.drop_left' length⟩

/-! ## Trees of bytes -/

-- The root of the bytes of a whole tree, told from their two halves.
def bytesTree : Nat → Bytes → Bytes
  | 0, data => data
  | depth + 1, data =>
    sha256 (bytesTree depth (data.take (data.length / 2)) ++
      bytesTree depth (data.drop (data.length / 2)))

theorem tree_joined (depth : Nat) (chunks : List Bytes) (sized : Chunks chunks)
    (width : chunks.length = 2 ^ depth) : tree depth chunks = bytesTree depth chunks.flatten := by
  induction depth generalizing chunks with
  | zero =>
      obtain ⟨chunk, rfl⟩ := List.length_eq_one_iff.mp width
      rw [List.flatten_singleton]
      rfl
  | succ depth ih =>
      have middle : chunks.length / 2 = 2 ^ depth := by
        rw [width, Nat.pow_succ]
        omega
      have bytesMiddle : chunks.flatten.length / 2 = chunkSize * 2 ^ depth := by
        rw [joined_length chunks sized, width, Nat.pow_succ, ← Nat.mul_assoc,
          Nat.mul_div_left _ (by decide)]
      have within : 2 ^ depth ≤ chunks.length := by
        rw [← middle]
        exact Nat.div_le_self _ _
      have firstWidth : (chunks.take (2 ^ depth)).length = 2 ^ depth :=
        List.length_take_of_le within
      have secondWidth : (chunks.drop (2 ^ depth)).length = 2 ^ depth := by
        rw [List.length_drop, width, Nat.pow_succ]
        omega
      obtain ⟨firstBytes, secondBytes⟩ := joined_parts chunks sized (2 ^ depth) within
      rw [tree, bytesTree, middle, bytesMiddle, firstBytes, secondBytes,
        ih _ (fun chunk member => sized chunk (List.mem_of_mem_take member)) firstWidth,
        ih _ (fun chunk member => sized chunk (List.mem_of_mem_drop member)) secondWidth]

/-! ## One run of zeros -/

-- The depth of the least tree whose chunks have room for a count of bytes.
def LeastRoom (length depth : Nat) : Prop :=
  length ≤ chunkSize * 2 ^ depth ∧ ∀ other : Nat, length ≤ chunkSize * 2 ^ other → depth ≤ other

theorem room_iff (length depth : Nat) :
    max 1 (chunkCount length : Int) ≤ 2 ^ depth ↔ length ≤ chunkSize * 2 ^ depth := by
  have positive : 0 < 2 ^ depth := Nat.pow_pos (by omega)
  have power : (2 : Int) ^ depth = ((2 ^ depth : Nat) : Int) := by simp
  rw [power]
  simp only [chunkCount, chunkSize]
  omega

theorem least_room (length depth : Nat) (least : LeastDepth (chunkCount length) depth) :
    LeastRoom length depth :=
  ⟨(room_iff length depth).mp least.1,
    fun other room => least.2 other ((room_iff length other).mpr room)⟩

theorem least_room_unique (length first second : Nat) (least : LeastRoom length first)
    (other : LeastRoom length second) : first = second :=
  Nat.le_antisymm (least.2 second other.1) (other.2 first least.1)

theorem zero_chunks_joined (count : Nat) :
    (List.replicate count zeroChunk).flatten = Bytes.zeros (chunkSize * count) := by
  rw [zeroChunk, Bytes.zeros, Bytes.zeros, List.flatten_replicate_replicate, Nat.mul_comm]

theorem pad_zeros (data : Bytes) (filler width : Nat) (room : data.length + filler ≤ width) :
    Bytes.padTo width (data ++ Bytes.zeros filler) = Bytes.padTo width data := by
  have split : width - data.length = filler + (width - (data.length + filler)) := by omega
  rw [Bytes.padTo, Bytes.padTo, List.length_append, Bytes.length_zeros, List.append_assoc, split,
    Bytes.zeros, Bytes.zeros, Bytes.zeros, List.replicate_append_replicate]

theorem chunk_count_fits (length depth : Nat) (room : length ≤ chunkSize * 2 ^ depth) :
    chunkCount length ≤ 2 ^ depth := by
  have positive : 0 < 2 ^ depth := Nat.pow_pos (by omega)
  simp only [chunkCount, chunkSize] at room ⊢
  omega

-- Zeros behind the last chunk and chunks of zeros come to the same bytes.
theorem packed_filled (data : Bytes) (depth : Nat) (room : data.length ≤ chunkSize * 2 ^ depth) :
    (pack data ++ List.replicate (2 ^ depth - (pack data).length) zeroChunk).flatten =
      Bytes.padTo (chunkSize * 2 ^ depth) data := by
  have enough := chunk_count_bound data.length
  have wider := Nat.mul_le_mul_left chunkSize (chunk_count_fits data.length depth room)
  rw [List.flatten_append, pack_joined, zero_chunks_joined, pack_length, Bytes.padTo, Bytes.padTo,
    List.append_assoc, Bytes.zeros, Bytes.zeros, Bytes.zeros, List.replicate_append_replicate]
  congr 2
  rw [Nat.mul_sub]
  omega

theorem bytes_root_tree (data : Bytes) (depth : Nat) (least : LeastRoom data.length depth) :
    bytesRoot data = .ok (bytesTree depth (Bytes.padTo (chunkSize * 2 ^ depth) data)) := by
  obtain ⟨reached, found⟩ := top_tree (pack data) (pack_chunks data)
  have leastReached : LeastRoom data.length reached :=
    least_room _ _ (pack_length data ▸ found.least)
  obtain rfl := least_room_unique _ _ _ least leastReached
  have filled : pack data ++ List.replicate (2 ^ depth - (pack data).length) zeroChunk =
      padded (pack data) := by
    rw [padded, found.width]
  have sized := padded_chunks (pack data) (pack_chunks data)
  have width : (padded (pack data)).length = 2 ^ depth := by rw [padded_length, found.width]
  calc bytesRoot data
      = .ok (top (pack data)) := bytes_root_top data
    _ = .ok (bytesTree depth (padded (pack data)).flatten) := by
        rw [found.halves, filled, tree_joined depth _ sized width]
    _ = .ok (bytesTree depth (Bytes.padTo (chunkSize * 2 ^ depth) data)) := by
        rw [← filled, packed_filled data depth least.1]

theorem least_room_exists (length : Nat) : ∃ depth, LeastRoom length depth := by
  obtain ⟨depth, _, least⟩ := next_power_least (chunkCount length)
  exact ⟨depth, least_room length depth least⟩

theorem least_room_grown (length extra depth : Nat) (least : LeastRoom length depth)
    (room : length + extra ≤ chunkSize * 2 ^ depth) : LeastRoom (length + extra) depth :=
  ⟨room, fun other wider => least.2 other (Nat.le_trans (Nat.le_add_right _ _) wider)⟩

theorem zeros_behind_unseen (data : Bytes) (extra depth : Nat) (least : LeastRoom data.length depth)
    (room : data.length + extra ≤ chunkSize * 2 ^ depth) :
    bytesRoot (data ++ Bytes.zeros extra) = bytesRoot data := by
  have length : (data ++ Bytes.zeros extra).length = data.length + extra := by
    rw [List.length_append, Bytes.length_zeros]
  have grown := least_room_grown data.length extra depth least room
  rw [bytes_root_tree _ depth (length ▸ grown), bytes_root_tree data depth least,
    pad_zeros data extra _ room]

theorem short_bytes_root (data : Bytes) (short : data.length ≤ chunkSize) :
    bytesRoot data = .ok (Bytes.padTo chunkSize data) :=
  bytes_root_tree data 0 ⟨short, fun other _ => Nat.zero_le other⟩

theorem bytes_root_vector (data : Bytes) :
    Packed data (pack data) ∧
    (data.length ≤ chunkSize → bytesRoot data = .ok (Bytes.padTo chunkSize data)) ∧
    ∃ depth, LeastRoom data.length depth ∧
      bytesRoot data = .ok (bytesTree depth (Bytes.padTo (chunkSize * 2 ^ depth) data)) ∧
      ∀ extra, data.length + extra ≤ chunkSize * 2 ^ depth →
        bytesRoot (data ++ Bytes.zeros extra) = bytesRoot data := by
  obtain ⟨depth, least⟩ := least_room_exists data.length
  exact ⟨pack_packed data, short_bytes_root data, depth, least, bytes_root_tree data depth least,
    fun extra room => zeros_behind_unseen data extra depth least room⟩

-- One byte more than a chunk holds takes a tree of two chunks, and thirty-one zeros more fit in.
theorem recorded_bytes_root_vector :
    bytesRoot [1] = .ok oneChunk ∧
      bytesRoot (oneChunk ++ [1]) = .ok (sha256 (oneChunk ++ oneChunk)) ∧
      bytesRoot (oneChunk ++ [1] ++ Bytes.zeros 31) = bytesRoot (oneChunk ++ [1]) := by
  obtain ⟨_, _, depth, least, found, unseen⟩ := bytes_root_vector (oneChunk ++ [1])
  have two : depth = 1 := least_room_unique _ _ _ least ⟨by decide, fun other room => by
    cases other with
    | zero => exact absurd room (by decide)
    | succ other => omega⟩
  cases two
  exact ⟨(bytes_root_vector [1]).2.1 (by decide), found, unseen 31 (by decide)⟩

end KeyCustody.Merkle
