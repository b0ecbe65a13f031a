import KeyCustody.Merkle

/-!
Merkle roots exist exactly for chunks of the right size, and are chunks themselves.
-/

set_option autoImplicit false

namespace KeyCustody.Merkle

def Chunks (level : List Bytes) : Prop := ∀ chunk ∈ level, chunk.length = chunkSize

theorem pair_up_chunks (level : List Bytes) (sized : Chunks level) : Chunks (pairUp level) := by
  fun_induction pairUp level with
  | case1 left right rest ih =>
      intro chunk member
      rcases List.mem_cons.mp member with here | later
      · rw [here]
        exact Sha256.length_digest _
      · exact ih (fun c inside => sized c (by simp [inside])) chunk later
  | case2 level short => exact sized

theorem climb_length (depth : Nat) (level : List Bytes) (sized : Chunks level) :
    (climb depth level).length = chunkSize := by
  induction depth generalizing level with
  | zero =>
      cases level with
      | nil => exact Bytes.length_zeros chunkSize
      | cons chunk rest => exact sized chunk List.mem_cons_self
  | succ depth ih => exact ih (pairUp level) (pair_up_chunks level sized)

theorem padded_chunks (chunks : List Bytes) (sized : Chunks chunks) : Chunks (padded chunks) := by
  intro chunk member
  rcases List.mem_append.mp member with inside | filler
  · exact sized chunk inside
  · rw [(List.mem_replicate.mp filler).2]
    exact Bytes.length_zeros chunkSize

def top (chunks : List Bytes) : Bytes := climb (nextPowerOfTwo chunks.length).log2 (padded chunks)

theorem top_length (chunks : List Bytes) (sized : Chunks chunks) :
    (top chunks).length = chunkSize :=
  climb_length _ _ (padded_chunks chunks sized)

theorem root_top (chunks : List Bytes) (sized : Chunks chunks) :
    root chunks = .ok (top chunks) := by
  have none_misshapen : chunks.find? (fun chunk => chunk.length ≠ chunkSize) = none := by
    rw [List.find?_eq_none]
    intro chunk member
    simp [sized chunk member]
  rw [root, none_misshapen]
  rfl

theorem pack_chunks (data : Bytes) : Chunks (pack data) := by
  intro chunk member
  obtain ⟨i, _, rfl⟩ := List.mem_map.mp member
  have bound : ((data.drop (chunkSize * i)).take chunkSize).length ≤ chunkSize :=
    List.length_take_le _ _
  rw [Bytes.padTo, List.length_append, Bytes.length_zeros]
  omega

def bytesTop (data : Bytes) : Bytes := top (pack data)

theorem bytes_top_length (data : Bytes) : (bytesTop data).length = chunkSize :=
  top_length (pack data) (pack_chunks data)

theorem bytes_root_top (data : Bytes) : bytesRoot data = .ok (bytesTop data) :=
  root_top (pack data) (pack_chunks data)

theorem pair_chunks (left right : Bytes) (leftSize : left.length = chunkSize)
    (rightSize : right.length = chunkSize) : Chunks [left, right] := by
  intro chunk member
  rcases List.mem_cons.mp member with here | later
  · rw [here, leftSize]
  · rw [List.mem_singleton.mp later, rightSize]

theorem pair_root_exists (left right : Bytes) (leftSize : left.length = chunkSize)
    (rightSize : right.length = chunkSize) :
    ∃ node, containerRoot [left, right] = .ok node ∧ node.length = chunkSize :=
  have sized := pair_chunks left right leftSize rightSize
  ⟨top [left, right], root_top _ sized, top_length _ sized⟩

-- The root of a record of two byte strings.
def recordTop (first second : Bytes) : Bytes := top [bytesTop first, bytesTop second]

theorem record_chunks (first second : Bytes) : Chunks [bytesTop first, bytesTop second] :=
  pair_chunks _ _ (bytes_top_length first) (bytes_top_length second)

theorem record_top_length (first second : Bytes) : (recordTop first second).length = chunkSize :=
  top_length _ (record_chunks first second)

theorem record_root_top (first second : Bytes) :
    (do
      let left ← bytesRoot first
      let right ← bytesRoot second
      containerRoot [left, right]) = .ok (recordTop first second) := by
  rw [bytes_root_top, bytes_root_top]
  exact root_top _ (record_chunks first second)

theorem pair_root_misshapen (left right : Bytes) (leftSize : left.length ≠ chunkSize) :
    containerRoot [left, right] = .error (.chunkLength left.length) := by
  rw [containerRoot, root, List.find?_cons_of_pos (by simpa using leftSize)]

end KeyCustody.Merkle
