import SyncEngine.Settlement.TransparencyLog

namespace StellarConduit

open Data

/-! Three ways to the root over a prefix of the leaves: pairing level by level,
splitting at a power of two, and chaining the hashes of a consistency proof. -/

def leafRange (leaves : List Digest) (start stop : Nat) : List Digest :=
  (leaves.take stop).drop start

theorem length_leafRange {leaves : List Digest} {stop : Nat}
    (inside : stop ≤ leaves.length) (start : Nat) :
    (leafRange leaves start stop).length = stop - start := by
  simp [leafRange, inside]

theorem leafRange_append (leaves : List Digest) {start mid stop : Nat}
    (lower : start ≤ mid) (upper : mid ≤ stop) :
    leafRange leaves start mid ++ leafRange leaves mid stop =
      leafRange leaves start stop := by
  have shorter : leafRange leaves start mid =
      (leafRange leaves start stop).take (mid - start) := by
    rw [leafRange, leafRange, List.take_drop, List.take_take]
    congr 2
    omega
  have later : leafRange leaves mid stop =
      (leafRange leaves start stop).drop (mid - start) := by
    rw [leafRange, leafRange, List.drop_drop]
    congr 1
    omega
  rw [shorter, later, List.take_append_drop]

theorem leafRange_single {leaves : List Digest} {start : Nat}
    (inside : start < leaves.length) :
    leafRange leaves start (start + 1) = [leaves[start]] := by
  have taken : (leaves.take start).length = start := by simp [inside.le]
  rw [leafRange, List.take_add_one, List.getElem?_eq_getElem inside,
    Option.toList_some, List.drop_left' taken]

namespace LogHasher

variable {Digest : Type} (hasher : LogHasher Digest)

def rangeRoot (leaves : List Digest) (start stop : Nat) : Digest :=
  HashTree.levelRoot hasher.nodeHash hasher.emptyHash
    (leafRange leaves start stop)

theorem rangeRoot_split {leaves : List Digest} {start mid stop k : Nat}
    (inside : stop ≤ leaves.length) (full : mid = start + 2 ^ k)
    (nonempty : mid < stop) (fits : stop ≤ mid + 2 ^ k) :
    hasher.rangeRoot leaves start stop =
      hasher.nodeHash (hasher.rangeRoot leaves start mid)
        (hasher.rangeRoot leaves mid stop) := by
  have split := leafRange_append leaves (by omega : start ≤ mid) nonempty.le
  rw [rangeRoot, ← split]
  apply HashTree.levelRoot_append _ _ k
  · rw [length_leafRange (by omega)]
    omega
  · rw [length_leafRange inside]
    omega
  · rw [length_leafRange inside]
    omega

theorem subtreeHash_eq_rangeRoot (leaves : List Digest) (start stop : Nat)
    (nonempty : start < stop) (inside : stop ≤ leaves.length) :
    hasher.subtreeHash leaves start stop nonempty inside =
      hasher.rangeRoot leaves start stop := by
  induction start, stop, nonempty, inside using
      subtreeHash.induct leaves with
  | case1 start stop nonempty inside single =>
      obtain rfl : stop = start + 1 := by omega
      rw [subtreeHash, dif_pos single, rangeRoot, leafRange_single (by omega),
        HashTree.levelRoot_singleton]
  | case2 start stop nonempty inside several positive within left right =>
      obtain ⟨k, half, below, above⟩ :=
        nextPowerOfTwo_half (by omega : 1 < stop - start)
      rw [subtreeHash, dif_neg several, dif_pos within, left, right,
        ← hasher.rangeRoot_split inside (by rw [half]) within (by omega)]
  | case3 start stop nonempty inside several positive beyond =>
      obtain ⟨k, half, below, above⟩ :=
        nextPowerOfTwo_half (by omega : 1 < stop - start)
      omega

theorem chainHashes_cons {first : Digest} {rest : List Digest}
    {chained : Digest} (tail : hasher.chainHashes rest = some chained) :
    hasher.chainHashes (first :: rest) =
      some (hasher.nodeHash first chained) := by
  cases rest with
  | nil => simp [chainHashes] at tail
  | cons second rest =>
      obtain ⟨last, isLast, rfl⟩ := Option.map_eq_some_iff.mp tail
      simp [chainHashes, isLast]

theorem collectFrom_step {leaves : List Digest} {size start : Nat}
    (inside : size ≤ leaves.length) (unfinished : start < size) :
    hasher.collectFrom leaves size start =
      hasher.rangeRoot leaves start
          (start + largestPowerOfTwo (size - start)) ::
        hasher.collectFrom leaves size
          (start + largestPowerOfTwo (size - start)) := by
  obtain ⟨k, power, below, _⟩ :=
    largestPowerOfTwo_spec (by omega : 0 < size - start)
  have positive : 0 < 2 ^ k := Nat.two_pow_pos k
  have whole : min (largestPowerOfTwo (size - start))
      (leaves.length - start) = largestPowerOfTwo (size - start) := by
    omega
  rw [collectFrom, dif_pos unfinished]
  simp only [whole, hasher.subtreeHash_eq_rangeRoot]
  rw [dif_pos (by omega)]

theorem chainHashes_collectFrom {leaves : List Digest} {size : Nat}
    (inside : size ≤ leaves.length) (start : Nat) (unfinished : start < size) :
    hasher.chainHashes (hasher.collectFrom leaves size start) =
      some (hasher.rangeRoot leaves start size) := by
  induction left : size - start using Nat.strong_induction_on
      generalizing start with
  | _ remaining induction =>
      obtain ⟨k, power, below, above⟩ :=
        largestPowerOfTwo_spec (by omega : 0 < remaining)
      have positive : 0 < 2 ^ k := Nat.two_pow_pos k
      rw [hasher.collectFrom_step inside unfinished, left, power]
      by_cases last : start + 2 ^ k = size
      · rw [last, collectFrom, dif_neg (lt_irrefl size)]
        rfl
      · have rest : start + 2 ^ k < size := by omega
        have tail := induction (size - (start + 2 ^ k)) (by omega)
          (start + 2 ^ k) rest rfl
        have split : hasher.rangeRoot leaves start size =
            hasher.nodeHash (hasher.rangeRoot leaves start (start + 2 ^ k))
              (hasher.rangeRoot leaves (start + 2 ^ k) size) :=
          hasher.rangeRoot_split inside rfl rest (by omega)
        rw [hasher.chainHashes_cons tail, split]

theorem chainHashes_collectSubtreeHashes {leaves : List Digest} {size : Nat}
    (inside : size ≤ leaves.length) (positive : 0 < size) :
    hasher.chainHashes (hasher.collectSubtreeHashes leaves size) =
      some (rootFromLevels (hasher.buildTreeLevels (leaves.take size))) := by
  rw [collectSubtreeHashes, hasher.chainHashes_collectFrom inside 0 positive,
    hasher.rootFromLevels_buildTreeLevels]
  rfl

end LogHasher

namespace TransparencyLog

variable {Digest : Type} [DecidableEq Digest] (hasher : LogHasher Digest)

/-- Every consistency proof that a log gives out says which prefix it is about,
with both roots, and is accepted against the log's own leaves, because the
collected hashes chain to the root over the prefix. -/
theorem consistencyProofFor_complete (log : TransparencyLog Digest)
    (oldSize : Nat) (positive : 1 ≤ oldSize) (fits : oldSize ≤ log.len) :
    (∃ proof, log.consistencyProofFor hasher oldSize = some proof ∧
      proof.oldSize = oldSize ∧ proof.newSize = log.len ∧
      proof.oldRoot = rootFromLevels
        (hasher.buildTreeLevels (log.leaves.take oldSize)) ∧
      proof.newRoot = rootFromLevels (hasher.buildTreeLevels log.leaves) ∧
      hasher.verifyConsistencyProof proof log.leaves = some true) ∧
    hasher.chainHashes (hasher.collectSubtreeHashes log.leaves oldSize) =
      some (rootFromLevels
        (hasher.buildTreeLevels (log.leaves.take oldSize))) := by
  have inside : oldSize ≤ log.leaves.length := by
    rw [log.sized]
    exact fits
  have chained := hasher.chainHashes_collectSubtreeHashes inside positive
  refine ⟨?_, chained⟩
  rw [consistencyProofFor, if_neg (by omega), LogHasher.consistencyProof,
    if_neg (by omega)]
  by_cases same : oldSize = log.len
  · have whole : log.leaves.take oldSize = log.leaves :=
      List.take_of_length_le (by rw [log.sized]; exact same.ge)
    rw [if_pos same, whole]
    have nonempty : log.len ≠ 0 := by omega
    exact ⟨_, rfl, rfl, rfl, rfl, rfl, by
      simp [LogHasher.verifyConsistencyProof, same, nonempty]⟩
  · rw [if_neg same]
    have proper : ¬(oldSize = 0 ∨ log.len < oldSize) := by omega
    exact ⟨_, rfl, rfl, rfl, rfl, rfl, by
      simp [LogHasher.verifyConsistencyProof, proper, same, chained]⟩

/-- Five leaves against the first three of them. -/
theorem consistencyProofFor_complete_three :
    let hasher : LogHasher (List UInt64) :=
      ⟨fun entry => [entry.timestamp], fun left right => left ++ right, []⟩
    let log := fromEntries hasher ([10, 11, 12, 13, 14].map fun time =>
      ⟨0, Vector.replicate 32 0, "", "queued", time⟩)
    (∃ proof, log.consistencyProofFor hasher 3 = some proof ∧
      proof.oldSize = 3 ∧ proof.newSize = log.len ∧
      proof.oldRoot =
        rootFromLevels (hasher.buildTreeLevels (log.leaves.take 3)) ∧
      proof.newRoot = rootFromLevels (hasher.buildTreeLevels log.leaves) ∧
      hasher.verifyConsistencyProof proof log.leaves = some true) ∧
    hasher.chainHashes (hasher.collectSubtreeHashes log.leaves 3) =
      some (rootFromLevels (hasher.buildTreeLevels (log.leaves.take 3))) :=
  consistencyProofFor_complete _ _ 3 (by decide) (by decide)

end TransparencyLog

end StellarConduit
