import KeyCustody.Proofs.Binding
import Mathlib.Algebra.Group.Int.Defs

/-!
Merkle roots as trees. A root is the hash of the roots of two halves, down to single chunks; going
up level by level, pair by pair, comes to the same. At one width a root binds the chunks it is made
of.
-/

set_option autoImplicit false

namespace KeyCustody.Merkle

/-! ## Widths -/

-- The depth of the least tree that has room for a count of chunks, and for at least one.
def LeastDepth (count : Int) (depth : Nat) : Prop :=
  max 1 count ≤ 2 ^ depth ∧ ∀ other : Nat, max 1 count ≤ 2 ^ other → depth ≤ other

theorem least_depth_one (count : Int) (small : count ≤ 1) : LeastDepth count 0 := by
  refine ⟨?_, fun other _ => Nat.zero_le other⟩
  rw [Int.pow_zero]
  omega

theorem least_depth_log (size : Nat) (several : 1 < size) :
    LeastDepth size ((size - 1).log2 + 1) := by
  have largest : max 1 (size : Int) = size := by omega
  have positive : size - 1 ≠ 0 := by omega
  have power (depth : Nat) : (2 : Int) ^ depth = ((2 ^ depth : Nat) : Int) := by simp
  rw [LeastDepth, largest]
  constructor
  · have above := Nat.lt_log2_self (n := size - 1)
    rw [power]
    omega
  · intro other room
    rw [power] at room
    exact (Nat.log2_lt positive).mpr (by omega)

theorem next_power_least (count : Int) :
    ∃ depth, nextPowerOfTwo count = 2 ^ depth ∧ LeastDepth count depth := by
  by_cases small : count ≤ 1
  · exact ⟨0, by rw [nextPowerOfTwo, if_pos small]; rfl, least_depth_one count small⟩
  · obtain ⟨size, rfl⟩ := Int.eq_ofNat_of_zero_le (show 0 ≤ count by omega)
    refine ⟨(size - 1).log2 + 1, ?_, least_depth_log size (by omega)⟩
    rw [nextPowerOfTwo, if_neg small]
    rfl

/-! ## Halves -/

-- The root of a tree of some depth, told from its two halves.
def tree : Nat → List Bytes → Bytes
  | 0, leaves => leaves.headD zeroChunk
  | depth + 1, leaves =>
    sha256 (tree depth (leaves.take (leaves.length / 2)) ++
      tree depth (leaves.drop (leaves.length / 2)))

theorem pair_up_append (first second : List Bytes) (half : Nat) (even : first.length = 2 * half) :
    pairUp (first ++ second) = pairUp first ++ pairUp second := by
  induction half generalizing first with
  | zero =>
      rw [List.length_eq_zero_iff.mp even]
      rfl
  | succ half ih =>
      match first, even with
      | left :: right :: rest, even =>
          have shorter : rest.length = 2 * half := by
            simp only [List.length_cons] at even
            omega
          rw [List.cons_append, List.cons_append, pairUp, pairUp, ih rest shorter,
            List.cons_append]

-- The halves do not meet before the last level.
theorem climb_append (depth : Nat) (first second : List Bytes)
    (firstWidth : first.length = 2 ^ depth) (secondWidth : second.length = 2 ^ depth) :
    climb (depth + 1) (first ++ second) = sha256 (climb depth first ++ climb depth second) := by
  induction depth generalizing first second with
  | zero =>
      obtain ⟨left, rfl⟩ := List.length_eq_one_iff.mp firstWidth
      obtain ⟨right, rfl⟩ := List.length_eq_one_iff.mp secondWidth
      rfl
  | succ depth ih =>
      rw [Nat.pow_succ, Nat.mul_comm] at firstWidth secondWidth
      rw [climb, pair_up_append first second _ firstWidth]
      exact ih (pairUp first) (pairUp second) (pair_up_length first _ firstWidth)
        (pair_up_length second _ secondWidth)

theorem climb_tree (depth : Nat) (level : List Bytes) (width : level.length = 2 ^ depth) :
    climb depth level = tree depth level := by
  induction depth generalizing level with
  | zero => rfl
  | succ depth ih =>
      have middle : level.length / 2 = 2 ^ depth := by
        rw [width, Nat.pow_succ]
        omega
      have firstWidth : (level.take (2 ^ depth)).length = 2 ^ depth := by
        rw [List.length_take, width, Nat.pow_succ]
        omega
      have secondWidth : (level.drop (2 ^ depth)).length = 2 ^ depth := by
        rw [List.length_drop, width, Nat.pow_succ]
        omega
      calc climb (depth + 1) level
          = climb (depth + 1) (level.take (2 ^ depth) ++ level.drop (2 ^ depth)) := by
            rw [List.take_append_drop]
        _ = sha256 (climb depth (level.take (2 ^ depth)) ++
              climb depth (level.drop (2 ^ depth))) :=
            climb_append depth _ _ firstWidth secondWidth
        _ = tree (depth + 1) level := by
            rw [ih _ firstWidth, ih _ secondWidth, tree, middle]

/-! ## Levels -/

-- A chunk and the one behind it, read by their places. Past the end of a level there is none.
def neighbours? (level : List Bytes) (place : Nat) : Option Bytes := do
  let left ← level[place]?
  let right ← level[place + 1]?
  return left ++ right

-- The pairs at every second place of a level, from the first one on.
def pairsByPlace? (level : List Bytes) : Option (List Bytes) :=
  (List.range' 0 ((level.length + 1) / 2) 2).mapM (neighbours? level)

-- Going up for as long as a level has several chunks, with the strings that are hashed on the way.
inductive Ascends : List Bytes → List Bytes → Bytes → Prop
  | arrived (node : Bytes) : Ascends [node] [] node
  | level (level nodes above : List Bytes) (top : Bytes) (several : 1 < level.length)
      (paired : pairsByPlace? level = some nodes)
      (further : Ascends (nodes.map sha256) above top) : Ascends level (nodes ++ above) top

theorem neighbours_behind (before : List Bytes) (left right : Bytes) (rest : List Bytes) :
    neighbours? (before ++ left :: right :: rest) before.length = some (left ++ right) := by
  simp [neighbours?]

theorem pairs_behind (before level : List Bytes) (half : Nat) (even : level.length = 2 * half) :
    (List.range' before.length half 2).mapM (neighbours? (before ++ level)) =
      some (pairs level) := by
  induction half generalizing before level with
  | zero =>
      rw [List.length_eq_zero_iff.mp even]
      rfl
  | succ half ih =>
      match level, even with
      | left :: right :: rest, even =>
          have shorter : rest.length = 2 * half := by
            simp only [List.length_cons] at even
            omega
          have later : (List.range' (before.length + 2) half 2).mapM
              (neighbours? (before ++ left :: right :: rest)) = some (pairs rest) := by
            simpa using ih (before ++ [left, right]) rest shorter
          rw [List.range'_succ, List.mapM_cons, neighbours_behind, later]
          rfl

theorem pairs_by_place (level : List Bytes) (half : Nat) (even : level.length = 2 * half) :
    pairsByPlace? level = some (pairs level) := by
  have rounded : (level.length + 1) / 2 = half := by omega
  rw [pairsByPlace?, rounded]
  exact pairs_behind [] level half even

theorem climb_ascends (depth : Nat) (level : List Bytes) (width : level.length = 2 ^ depth) :
    Ascends level (hashedBelow depth level) (climb depth level) := by
  induction depth generalizing level with
  | zero =>
      obtain ⟨node, rfl⟩ := List.length_eq_one_iff.mp width
      exact .arrived node
  | succ depth ih =>
      have positive : 0 < 2 ^ depth := Nat.pow_pos (by omega)
      rw [Nat.pow_succ, Nat.mul_comm] at width
      have further := ih (pairUp level) (pair_up_length level _ width)
      rw [pair_up_digests level _ width] at further
      rw [hashedBelow, climb, pair_up_digests level _ width]
      exact .level level (pairs level) _ _ (by omega) (pairs_by_place level _ width) further

/-! ## Roots -/

theorem top_ascends (chunks : List Bytes) :
    Ascends (padded chunks) (hashed chunks) (top chunks) :=
  climb_ascends _ (padded chunks) ((padded_length chunks).trans (next_power_depth chunks.length))

-- What the root of chunks has to be.
structure TreeRoot (chunks : List Bytes) (depth : Nat) (node : Bytes) : Prop where
  least : LeastDepth chunks.length depth
  width : nextPowerOfTwo chunks.length = 2 ^ depth
  size : node.length = chunkSize
  halves : node =
    tree depth (chunks ++ List.replicate (2 ^ depth - chunks.length) zeroChunk)
  levels : Ascends (padded chunks) (hashed chunks) node

theorem top_tree (chunks : List Bytes) (sized : Chunks chunks) :
    ∃ depth, TreeRoot chunks depth (top chunks) := by
  obtain ⟨depth, width, least⟩ := next_power_least chunks.length
  have filled : (padded chunks).length = 2 ^ depth := by rw [padded_length, width]
  have halves : top chunks =
      tree depth (chunks ++ List.replicate (2 ^ depth - chunks.length) zeroChunk) := by
    rw [top, width, Nat.log2_two_pow, climb_tree depth _ filled, padded, width]
  exact ⟨depth, least, width, top_length chunks sized, halves, top_ascends chunks⟩

theorem root_misshapen (before after : List Bytes) (chunk : Bytes) (sized : Chunks before)
    (misshapen : chunk.length ≠ chunkSize) :
    root (before ++ chunk :: after) = .error (.chunkLength chunk.length) := by
  have found : (before ++ chunk :: after).find? (fun chunk => chunk.length ≠ chunkSize) =
      some chunk := by
    rw [List.find?_eq_some_iff_append]
    refine ⟨by simpa using misshapen, before, after, rfl, fun other member => ?_⟩
    simp [sized other member]
  rw [root, found]

theorem chunks_or_misshapen (chunks : List Bytes) :
    Chunks chunks ∨ ∃ before chunk after, chunks = before ++ chunk :: after ∧ Chunks before ∧
      chunk.length ≠ chunkSize := by
  cases found : chunks.find? (fun chunk => chunk.length ≠ chunkSize) with
  | none =>
      left
      intro chunk member
      simpa using List.find?_eq_none.mp found chunk member
  | some chunk =>
      obtain ⟨misshapen, before, after, split, sized⟩ := List.find?_eq_some_iff_append.mp found
      refine Or.inr ⟨before, chunk, after, split, fun other member => ?_, by simpa using misshapen⟩
      simpa using sized other member

theorem root_fails_iff (chunks : List Bytes) (fault : Fault) :
    root chunks = .error fault ↔ ∃ before chunk after, chunks = before ++ chunk :: after ∧
      Chunks before ∧ chunk.length ≠ chunkSize ∧ fault = .chunkLength chunk.length := by
  constructor
  · intro failed
    rcases chunks_or_misshapen chunks with sized | ⟨before, chunk, after, rfl, sized, misshapen⟩
    · rw [root_top chunks sized] at failed
      cases failed
    · rw [root_misshapen before after chunk sized misshapen] at failed
      exact ⟨before, chunk, after, rfl, sized, misshapen, (Except.error.inj failed).symm⟩
  · rintro ⟨before, chunk, after, rfl, sized, misshapen, rfl⟩
    exact root_misshapen before after chunk sized misshapen

theorem root_ok_chunks (chunks : List Bytes) (node : Bytes) (found : root chunks = .ok node) :
    Chunks chunks := by
  rcases chunks_or_misshapen chunks with sized | ⟨before, chunk, after, rfl, sized, misshapen⟩
  · exact sized
  · rw [root_misshapen before after chunk sized misshapen] at found
    cases found

theorem root_is_tree (chunks : List Bytes) :
    (∀ fault, root chunks = .error fault ↔ ∃ before chunk after,
      chunks = before ++ chunk :: after ∧ Chunks before ∧ chunk.length ≠ chunkSize ∧
        fault = .chunkLength chunk.length) ∧
    (Chunks chunks ↔ ∃ depth node, root chunks = .ok node ∧ TreeRoot chunks depth node) ∧
    root [] = .ok zeroChunk ∧
    ∀ count, ∃ depth, nextPowerOfTwo count = 2 ^ depth ∧ LeastDepth count depth := by
  refine ⟨root_fails_iff chunks, ⟨fun sized => ?_, fun ⟨_, node, found, _⟩ => ?_⟩, ?_,
    next_power_least⟩
  · obtain ⟨depth, found⟩ := top_tree chunks sized
    exact ⟨depth, top chunks, root_top chunks sized, found⟩
  · exact root_ok_chunks chunks node found
  · exact root_top [] fun _ member => absurd member List.not_mem_nil

def oneChunk : Bytes := Bytes.padTo chunkSize [1]

-- Behind three chunks stands a zero chunk.
example : hashed [zeroChunk, oneChunk, oneChunk] =
    [zeroChunk ++ oneChunk, oneChunk ++ zeroChunk,
      sha256 (zeroChunk ++ oneChunk) ++ sha256 (oneChunk ++ zeroChunk)] := by
  decide +kernel

/-! ## Leaves -/

theorem top_padded (first second : List Bytes)
    (width : nextPowerOfTwo first.length = nextPowerOfTwo second.length)
    (same : padded first = padded second) : top first = top second := by
  rw [top, top, width, same]

theorem roots_bind_leaves :
    (∀ first second : List Bytes, Chunks first → Chunks second →
      nextPowerOfTwo first.length = nextPowerOfTwo second.length →
      ∃ node other, root first = .ok node ∧ root second = .ok other ∧
        Ascends (padded first) (hashed first) node ∧
        Ascends (padded second) (hashed second) other ∧
        (padded first = padded second → node = other) ∧
        (node = other → padded first = padded second ∨
          Collision (hashed first) (hashed second))) ∧
    ∀ first second : Bytes, first.length = second.length →
      ∃ node other, bytesRoot first = .ok node ∧ bytesRoot second = .ok other ∧
        Ascends (padded (pack first)) (bytesHashed first) node ∧
        Ascends (padded (pack second)) (bytesHashed second) other ∧
        (node = other → first = second ∨
          Collision (bytesHashed first) (bytesHashed second)) := by
  refine ⟨fun first second sized otherSized width => ?_, fun first second length => ?_⟩
  · exact ⟨top first, top second, root_top first sized, root_top second otherSized,
      top_ascends first, top_ascends second, top_padded first second width,
      top_binds first second sized otherSized width⟩
  · exact ⟨bytesTop first, bytesTop second, bytes_root_top first, bytes_root_top second,
      top_ascends (pack first), top_ascends (pack second),
      bytes_top_binds first second length⟩

-- A zero chunk at the end does not show, but the order of chunks does, and so does the last byte.
theorem recorded_roots_bind_leaves :
    root [oneChunk, zeroChunk, oneChunk] = root [oneChunk, zeroChunk, oneChunk, zeroChunk] ∧
      root [oneChunk, zeroChunk] ≠ root [zeroChunk, oneChunk] ∧
      bytesRoot (zeroChunk ++ [1]) ≠ bytesRoot (zeroChunk ++ [2]) := by
  obtain ⟨leaves, strings⟩ := roots_bind_leaves
  have sized : ∀ chunks : List Bytes, (∀ chunk ∈ chunks, chunk = oneChunk ∨ chunk = zeroChunk) →
      Chunks chunks := fun chunks known chunk member => by
    rcases known chunk member with rfl | rfl <;> rfl
  have three : nextPowerOfTwo 3 = nextPowerOfTwo 4 := by decide +kernel
  refine ⟨?_, fun same => ?_, fun same => ?_⟩
  · obtain ⟨node, other, found, otherFound, _, _, alike, _⟩ := leaves
      [oneChunk, zeroChunk, oneChunk] [oneChunk, zeroChunk, oneChunk, zeroChunk]
      (sized _ (by simp)) (sized _ (by simp)) three
    rw [found, otherFound, alike (by decide +kernel)]
  · obtain ⟨node, other, found, otherFound, _, _, _, binds⟩ := leaves [oneChunk, zeroChunk]
      [zeroChunk, oneChunk] (sized _ (by simp)) (sized _ (by simp)) rfl
    rw [found, otherFound] at same
    exact absurd (binds (Except.ok.inj same)) (by decide +kernel)
  · obtain ⟨node, other, found, otherFound, _, _, binds⟩ := strings (zeroChunk ++ [1])
      (zeroChunk ++ [2]) rfl
    rw [found, otherFound] at same
    exact absurd (binds (Except.ok.inj same)) (by decide +kernel)

end KeyCustody.Merkle
