import Mathlib.Data.Nat.Log
import SyncEngine.Data.ByteLayout
import SyncEngine.Data.HashTree
import SyncEngine.Errors

namespace StellarConduit

open Data

/-- `usize::next_power_of_two` -/
def nextPowerOfTwo (size : Nat) : Nat := 2 ^ Nat.clog 2 size

theorem nextPowerOfTwo_half {size : Nat} (wide : 1 < size) :
    ∃ k, nextPowerOfTwo size / 2 = 2 ^ k ∧ 2 ^ k < size ∧
      size ≤ 2 * 2 ^ k := by
  have positive : 0 < Nat.clog 2 size := Nat.clog_pos (by omega) wide
  have double : 2 ^ Nat.clog 2 size = 2 * 2 ^ (Nat.clog 2 size).pred := by
    rw [← pow_succ', ← Nat.succ_eq_add_one, Nat.succ_pred_eq_of_pos positive]
  refine ⟨(Nat.clog 2 size).pred, ?_, ?_, ?_⟩
  · simp [nextPowerOfTwo, double]
  · exact Nat.pow_pred_clog_lt_self (by omega) wide
  · rw [← double]
    exact Nat.le_pow_clog (by omega) size

theorem nextPowerOfTwo_half_pos {size : Nat} (wide : 1 < size) :
    0 < nextPowerOfTwo size / 2 := by
  obtain ⟨k, half, _, _⟩ := nextPowerOfTwo_half wide
  rw [half]
  exact Nat.two_pow_pos k

/-- `sub_size` in the loop of `collect_subtree_hashes` -/
def largestPowerOfTwo (remaining : Nat) : Nat :=
  if remaining.isPowerOfTwo then remaining else nextPowerOfTwo remaining / 2

theorem largestPowerOfTwo_spec {remaining : Nat} (positive : 0 < remaining) :
    ∃ k, largestPowerOfTwo remaining = 2 ^ k ∧ 2 ^ k ≤ remaining ∧
      remaining ≤ 2 * 2 ^ k := by
  by_cases power : remaining.isPowerOfTwo
  · obtain ⟨k, rfl⟩ := power
    refine ⟨k, if_pos ⟨k, rfl⟩, le_refl _, ?_⟩
    omega
  · have wide : 1 < remaining := by
      by_contra narrow
      obtain rfl : remaining = 1 := by omega
      exact power Nat.isPowerOfTwo_one
    obtain ⟨k, half, below, above⟩ := nextPowerOfTwo_half wide
    exact ⟨k, by rw [largestPowerOfTwo, if_neg power, half], below.le, above⟩

structure LogEntry where
  index : UInt64
  messageId : Bytes32
  fromStatus : String
  toStatus : String
  timestamp : UInt64
  deriving DecidableEq

/-- `u64::to_le_bytes` -/
def toLeBytes (value : UInt64) : Bytes :=
  (List.range 8).map fun position =>
    (value >>> (8 * position.toUInt64)).toUInt8

@[simp] theorem length_toLeBytes (value : UInt64) :
    (toLeBytes value).length = 8 := by
  simp [toLeBytes]

theorem word_toLeBytes (value : UInt64) :
    ByteLayout.word (toLeBytes value) = value.toNat := by
  have digits : toLeBytes value = (List.range 8).map fun position =>
      UInt8.ofNat (value.toNat / 256 ^ position) := by
    apply List.map_congr_left
    intro position inside
    have small : position < 8 := List.mem_range.mp inside
    apply UInt8.toNat_inj.mp
    have shift : (8 * position.toUInt64).toNat % 64 = 8 * position := by
      simp only [UInt64.toNat_mul, UInt64.reduceToNat, Nat.toUInt64_eq,
        UInt64.toNat_ofNat']
      omega
    rw [UInt64.toNat_toUInt8, UInt64.toNat_shiftRight, shift,
      Nat.shiftRight_eq_div_pow, pow_mul, UInt8.toNat_ofNat']
    norm_num
  rw [digits, ByteLayout.word_digits]
  exact Nat.mod_eq_of_lt value.toNat_lt

theorem toLeBytes_injective {first second : UInt64}
    (same : toLeBytes first = toLeBytes second) : first = second := by
  apply UInt64.toNat_inj.mp
  rw [← word_toLeBytes, ← word_toLeBytes, same]

theorem exists_toLeBytes {bytes : Bytes} (wide : bytes.length = 8) :
    ∃ value : UInt64, toLeBytes value = bytes := by
  have fits : ByteLayout.word bytes < 2 ^ 64 := by
    have below := ByteLayout.word_lt bytes
    rw [wide] at below
    exact below
  refine ⟨UInt64.ofNat (ByteLayout.word bytes), ?_⟩
  apply ByteLayout.word_injective
  · rw [length_toLeBytes, wide]
  · rw [word_toLeBytes, UInt64.toNat_ofNat_of_lt' fits]

def LogEntry.toHashBytes (entry : LogEntry) : Bytes :=
  toLeBytes entry.index ++ entry.messageId.toVec ++
    entry.fromStatus.toUTF8.toList ++ entry.toStatus.toUTF8.toList ++
    toLeBytes entry.timestamp

/-- The hash functions of the log. Everything below is generic in them; the
code runs at `LogHasher.ofSha256`. -/
structure LogHasher (Digest : Type) where
  leafHash : LogEntry → Digest
  nodeHash : Digest → Digest → Digest
  emptyHash : Digest

def leafDomain : Bytes :=
  "stellarconduit_transparency_log_leaf_v1".toUTF8.toList

def nodeDomain : Bytes :=
  "stellarconduit_transparency_log_node_v1".toUTF8.toList

def leafMessage (entry : LogEntry) : Bytes := leafDomain ++ entry.toHashBytes

def nodeMessage (left right : Bytes32) : Bytes :=
  nodeDomain ++ left.toVec ++ right.toVec

/-- `sha256` is the digest of the bytes given to one hasher in all its
updates. -/
def LogHasher.ofSha256 (sha256 : Bytes → Bytes32) : LogHasher Bytes32 where
  leafHash entry := sha256 (leafMessage entry)
  nodeHash left right := sha256 (nodeMessage left right)
  emptyHash := Vector.replicate 32 0

/-- The levels of a tree, leaves first. The last one is there and holds the
root. -/
structure TreeLevels (Digest : Type) where
  levels : List (List Digest)
  rooted : (levels.getLast?.bind List.head?).isSome

structure InclusionProof (Digest : Type) where
  leafIndex : Nat
  leafHash : Digest
  path : List (Digest × Bool)
  rootHash : Digest

structure ConsistencyProof (Digest : Type) where
  oldSize : Nat
  newSize : Nat
  oldRoot : Digest
  newRoot : Digest
  proofHashes : List Digest

section

variable {Digest : Type}

def rootFromLevels (tree : TreeLevels Digest) : Digest :=
  (tree.levels.getLast?.bind List.head?).get tree.rooted

namespace LogHasher

variable (hasher : LogHasher Digest)

/-- The loop of `build_tree_levels`, from `level` upwards. -/
def levelsFrom (level : List Digest) : List (List Digest) :=
  if 1 < level.length then
    level :: levelsFrom (HashTree.pairUp hasher.nodeHash level)
  else
    [level]
termination_by level.length
decreasing_by
  simp only [HashTree.length_pairUp]
  omega

theorem levelsFrom_of_le_one {level : List Digest} (small : level.length ≤ 1) :
    hasher.levelsFrom level = [level] := by
  rw [levelsFrom, if_neg (by omega)]

theorem levelsFrom_of_one_lt {level : List Digest} (wide : 1 < level.length) :
    hasher.levelsFrom level =
      level :: hasher.levelsFrom (HashTree.pairUp hasher.nodeHash level) := by
  rw [levelsFrom, if_pos wide]

theorem levelsFrom_ne_nil (level : List Digest) :
    hasher.levelsFrom level ≠ [] := by
  rw [levelsFrom]
  split <;> simp

theorem levelsFrom_root (empty : Digest) (level : List Digest)
    (nonempty : level ≠ []) :
    (hasher.levelsFrom level).getLast?.bind List.head? =
      some (HashTree.levelRoot hasher.nodeHash empty level) := by
  induction level using levelsFrom.induct hasher with
  | case1 level wide induction =>
      have above : HashTree.pairUp hasher.nodeHash level ≠ [] := by
        apply List.ne_nil_of_length_pos
        simp only [HashTree.length_pairUp]
        omega
      rw [hasher.levelsFrom_of_one_lt wide,
        List.getLast?_cons_of_ne_nil (hasher.levelsFrom_ne_nil _),
        induction above, HashTree.levelRoot_pairUp]
  | case2 level small =>
      have single : level.length = 1 := by
        have := List.length_pos_of_ne_nil nonempty
        omega
      obtain ⟨only, rfl⟩ := List.length_eq_one_iff.mp single
      simp [levelsFrom]

def buildTreeLevels (leaves : List Digest) : TreeLevels Digest :=
  if empty : leaves = [] then
    ⟨[[hasher.emptyHash]], rfl⟩
  else
    ⟨hasher.levelsFrom leaves, by
      rw [hasher.levelsFrom_root hasher.emptyHash leaves empty]
      rfl⟩

theorem rootFromLevels_buildTreeLevels (leaves : List Digest) :
    rootFromLevels (hasher.buildTreeLevels leaves) =
      HashTree.levelRoot hasher.nodeHash hasher.emptyHash leaves := by
  unfold buildTreeLevels
  split
  · rename_i empty
    subst empty
    simp [rootFromLevels, HashTree.levelRoot]
  · rename_i nonempty
    exact Option.get_of_eq_some _ (hasher.levelsFrom_root _ leaves nonempty)

/-- What one round of the loop of `inclusion_proof_from_levels` pushes. -/
def siblingStep (level : List Digest) (idx : Nat) : Digest × Bool :=
  let (siblingIdx, isRight) :=
    if idx % 2 = 0 then (idx + 1, true) else (idx - 1, false)
  (level[siblingIdx]?.getD hasher.emptyHash, isRight)

def siblingPath : List (List Digest) → Nat → List (Digest × Bool)
  | [], _ => []
  | level :: above, idx =>
      hasher.siblingStep level idx :: siblingPath above (idx / 2)

def inclusionProofFromLevels (tree : TreeLevels Digest)
    (leaves : List Digest) (index : Nat) : Option (InclusionProof Digest) :=
  leaves[index]?.map fun leafHash => {
    leafIndex := index
    leafHash := leafHash
    path := hasher.siblingPath tree.levels.dropLast index
    rootHash := rootFromLevels tree }

/-- One round of the loop of `verify_inclusion_proof`. -/
def climb (current : Digest) (step : Digest × Bool) : Digest :=
  if step.2 then hasher.nodeHash current step.1
  else hasher.nodeHash step.1 current

def verifyInclusionProof [DecidableEq Digest]
    (proof : InclusionProof Digest) : Bool :=
  proof.path.foldl hasher.climb proof.leafHash = proof.rootHash

/-- The arguments beside the range are the `debug_assert` of the source and the
bound that its indexing checks. -/
def subtreeHash (leaves : List Digest) (start stop : Nat)
    (nonempty : start < stop) (inside : stop ≤ leaves.length) : Digest :=
  if single : stop - start = 1 then
    leaves[start]
  else
    have positive : 0 < nextPowerOfTwo (stop - start) / 2 :=
      nextPowerOfTwo_half_pos (by omega)
    if within : start + nextPowerOfTwo (stop - start) / 2 < stop then
      hasher.nodeHash
        (subtreeHash leaves start (start + nextPowerOfTwo (stop - start) / 2)
          (by omega) (by omega))
        (subtreeHash leaves (start + nextPowerOfTwo (stop - start) / 2) stop
          within inside)
    else
      leaves[start]
termination_by stop - start

/-- The loop of `collect_subtree_hashes`, from `start` on. -/
def collectFrom (leaves : List Digest) (size start : Nat) : List Digest :=
  if unfinished : start < size then
    let subSize := largestPowerOfTwo (size - start)
    let actualSize := min subSize (leaves.length - start)
    if nonempty : 0 < actualSize then
      hasher.subtreeHash leaves start (start + actualSize) (by omega)
          (by omega) ::
        collectFrom leaves size (start + actualSize)
    else
      []
  else
    []
termination_by size - start
decreasing_by
  exact Nat.sub_lt_sub_left unfinished (Nat.lt_add_of_pos_right nonempty)

def collectSubtreeHashes (leaves : List Digest) (size : Nat) : List Digest :=
  hasher.collectFrom leaves size 0

def consistencyProof (oldLeaves newLeaves : List Digest)
    (oldSize newSize : Nat) : Option (ConsistencyProof Digest) :=
  if oldSize = 0 ∨ newSize < oldSize then
    none
  else
    let oldRoot := rootFromLevels (hasher.buildTreeLevels oldLeaves)
    let newRoot := rootFromLevels (hasher.buildTreeLevels newLeaves)
    if oldSize = newSize then
      some ⟨oldSize, newSize, oldRoot, newRoot, []⟩
    else
      some ⟨oldSize, newSize, oldRoot, newRoot,
        hasher.collectSubtreeHashes newLeaves oldSize⟩

/-- The hashes chained from the right; indexing an empty vector panics. -/
def chainHashes (proofHashes : List Digest) : Option Digest :=
  proofHashes.getLast?.map fun last =>
    proofHashes.dropLast.foldr hasher.nodeHash last

/-- `none` is the panic of `chainHashes`. -/
def verifyConsistencyProof [DecidableEq Digest]
    (proof : ConsistencyProof Digest) (newLeaves : List Digest) :
    Option Bool :=
  if proof.oldSize = 0 ∨ proof.newSize < proof.oldSize then
    some false
  else if proof.oldSize = proof.newSize then
    let expected := rootFromLevels (hasher.buildTreeLevels newLeaves)
    some (proof.oldRoot = proof.newRoot ∧ proof.newRoot = expected)
  else
    (hasher.chainHashes proof.proofHashes).map fun reconstructed =>
      let actualNewRoot := rootFromLevels (hasher.buildTreeLevels newLeaves)
      reconstructed = proof.oldRoot ∧ actualNewRoot = proof.newRoot

end LogHasher

end

/-- Every operation that changes one of the two vectors changes the other. -/
structure TransparencyLog (Digest : Type) where
  entries : List LogEntry
  leaves : List Digest
  root : Digest
  sized : leaves.length = entries.length

namespace TransparencyLog

variable {Digest : Type} (hasher : LogHasher Digest)

def new : TransparencyLog Digest := ⟨[], [], hasher.emptyHash, rfl⟩

def append (log : TransparencyLog Digest) (entry : LogEntry) :
    TransparencyLog Digest :=
  let entry := { entry with index := log.entries.length.toUInt64 }
  let leaves := log.leaves ++ [hasher.leafHash entry]
  { entries := log.entries ++ [entry]
    leaves := leaves
    root := rootFromLevels (hasher.buildTreeLevels leaves)
    sized := by simp [leaves, log.sized] }

def len (log : TransparencyLog Digest) : Nat := log.entries.length

def rootHash (log : TransparencyLog Digest) : Digest := log.root

def get (log : TransparencyLog Digest) (index : Nat) : Option LogEntry :=
  log.entries[index]?

def inclusionProof (log : TransparencyLog Digest) (index : Nat) :
    Option (InclusionProof Digest) :=
  hasher.inclusionProofFromLevels (hasher.buildTreeLevels log.leaves)
    log.leaves index

def consistencyProofFor (log : TransparencyLog Digest) (oldSize : Nat) :
    Option (ConsistencyProof Digest) :=
  if oldSize = 0 ∨ log.len < oldSize then
    none
  else
    hasher.consistencyProof (log.leaves.take oldSize) log.leaves oldSize
      log.len

def fromEntries (entries : List LogEntry) : TransparencyLog Digest :=
  entries.foldl (append hasher) (new hasher)

end TransparencyLog

end StellarConduit
