import SyncEngine.Settlement.InclusionProof

namespace StellarConduit

open Data

/-! What a root says about the leaves below it. A tree of more than one leaf
hashes the roots of the two trees that it splits into at a power of two. -/

namespace LogHasher

variable {Digest : Type} (hasher : LogHasher Digest)

/-- The pairs that are hashed to build the tree over `leaves`. -/
def hashedPairs (leaves : List Digest) : List (Digest × Digest) :=
  (hasher.levelsFrom leaves).flatMap adjacentPairs

def treeRoot (leaves : List Digest) : Digest :=
  HashTree.levelRoot hasher.nodeHash hasher.emptyHash leaves

theorem rootFromLevels_eq_treeRoot (leaves : List Digest) :
    rootFromLevels (hasher.buildTreeLevels leaves) = hasher.treeRoot leaves :=
  hasher.rootFromLevels_buildTreeLevels leaves

@[simp] theorem treeRoot_nil : hasher.treeRoot [] = hasher.emptyHash := by
  simp [treeRoot, HashTree.levelRoot]

@[simp] theorem treeRoot_singleton (leaf : Digest) :
    hasher.treeRoot [leaf] = leaf := by
  simp [treeRoot]

theorem hashedPairs_pairUp (level : List Digest) :
    hasher.hashedPairs level = adjacentPairs level ++
      hasher.hashedPairs (HashTree.pairUp hasher.nodeHash level) := by
  match level with
  | [] => simp [hashedPairs, hasher.levelsFrom_of_le_one, adjacentPairs]
  | [only] => simp [hashedPairs, hasher.levelsFrom_of_le_one, adjacentPairs]
  | first :: second :: rest =>
      rw [hashedPairs, hasher.levelsFrom_of_one_lt (by simp)]
      rfl

theorem adjacentPairs_append {left : List Digest}
    (even : left.length % 2 = 0) (right : List Digest) :
    adjacentPairs (left ++ right) =
      adjacentPairs left ++ adjacentPairs right := by
  induction left using HashTree.pairUp.induct with
  | case1 first second rest induction =>
      simp only [List.length_cons] at even
      simp only [List.cons_append, adjacentPairs]
      rw [induction (by omega)]
  | case2 last => simp at even
  | case3 => rfl

theorem mem_hashedPairs_append (k : Nat) (left right : List Digest)
    (full : left.length = 2 ^ k) (nonempty : 0 < right.length)
    (fits : right.length ≤ 2 ^ k) (pair : Digest × Digest) :
    pair ∈ hasher.hashedPairs (left ++ right) ↔
      pair ∈ hasher.hashedPairs left ∨ pair ∈ hasher.hashedPairs right ∨
        pair = (hasher.treeRoot left, hasher.treeRoot right) := by
  induction k generalizing left right with
  | zero =>
      obtain ⟨first, rfl⟩ := List.length_eq_one_iff.mp full
      have one : right.length = 1 := by
        simp only [pow_zero] at fits
        omega
      obtain ⟨second, rfl⟩ := List.length_eq_one_iff.mp one
      rw [hasher.hashedPairs_pairUp]
      simp [hashedPairs, hasher.levelsFrom_of_le_one, adjacentPairs]
  | succ k induction =>
      have double : 2 ^ (k + 1) = 2 * 2 ^ k := by ring
      have even : left.length % 2 = 0 := by omega
      have above := induction (HashTree.pairUp hasher.nodeHash left)
        (HashTree.pairUp hasher.nodeHash right)
        (by rw [HashTree.length_pairUp]; omega)
        (by rw [HashTree.length_pairUp]; omega)
        (by rw [HashTree.length_pairUp]; omega)
      rw [hasher.hashedPairs_pairUp (left ++ right),
        hasher.hashedPairs_pairUp left, hasher.hashedPairs_pairUp right,
        HashTree.pairUp_append _ _ _ even, adjacentPairs_append even]
      simp only [treeRoot, HashTree.levelRoot_pairUp] at above
      simp only [List.mem_append, above, treeRoot]
      apply or_or_or_comm.trans
      apply or_congr_right
      exact or_assoc.symm

/-- `leaves` as the two trees below its root. -/
structure Halves (leaves left right : List Digest) : Prop where
  parts : leaves = left ++ right
  width : left.length = nextPowerOfTwo leaves.length / 2
  leftNonempty : left ≠ []
  rightNonempty : right ≠ []
  root : hasher.treeRoot leaves =
    hasher.nodeHash (hasher.treeRoot left) (hasher.treeRoot right)
  hashed : ∀ pair, pair ∈ hasher.hashedPairs leaves ↔
    pair ∈ hasher.hashedPairs left ∨ pair ∈ hasher.hashedPairs right ∨
      pair = (hasher.treeRoot left, hasher.treeRoot right)

theorem exists_halves {leaves : List Digest} (wide : 1 < leaves.length) :
    ∃ left right, hasher.Halves leaves left right := by
  obtain ⟨k, half, below, above⟩ := nextPowerOfTwo_half wide
  have positive : 0 < 2 ^ k := Nat.two_pow_pos k
  have parts := List.take_append_drop (2 ^ k) leaves
  have leftLength : (leaves.take (2 ^ k)).length = 2 ^ k := by
    rw [List.length_take]
    omega
  have rightLength : (leaves.drop (2 ^ k)).length = leaves.length - 2 ^ k :=
    List.length_drop
  refine ⟨leaves.take (2 ^ k), leaves.drop (2 ^ k), parts.symm, ?_, ?_, ?_,
    ?_, ?_⟩
  · rw [leftLength, half]
  · exact List.ne_nil_of_length_pos (by omega)
  · exact List.ne_nil_of_length_pos (by omega)
  · have root := HashTree.levelRoot_append hasher.nodeHash hasher.emptyHash k
      (leaves.take (2 ^ k)) (leaves.drop (2 ^ k)) leftLength (by omega)
      (by omega)
    rwa [parts] at root
  · intro pair
    have hashed := hasher.mem_hashedPairs_append k (leaves.take (2 ^ k))
      (leaves.drop (2 ^ k)) leftLength (by omega) (by omega) pair
    rwa [parts] at hashed

theorem halvesInduction {motive : List Digest → Prop} (nil : motive [])
    (singleton : ∀ leaf, motive [leaf])
    (halves : ∀ leaves left right, hasher.Halves leaves left right →
      motive left → motive right → motive leaves) (leaves : List Digest) :
    motive leaves := by
  induction size : leaves.length using Nat.strong_induction_on
      generalizing leaves with
  | _ size induction =>
      match leaves with
      | [] => exact nil
      | [leaf] => exact singleton leaf
      | first :: second :: rest =>
          have wide : 1 < (first :: second :: rest).length := by simp
          obtain ⟨left, right, split⟩ := hasher.exists_halves wide
          have leftPositive := List.length_pos_of_ne_nil split.leftNonempty
          have rightPositive := List.length_pos_of_ne_nil split.rightNonempty
          have lengths := congrArg List.length split.parts
          rw [size, List.length_append] at lengths
          exact halves _ left right split
            (induction left.length (by omega) left rfl)
            (induction right.length (by omega) right rfl)

/-- The tree over `leaves` hashes only pairs in `pairs`, and none of these
hashes to a leaf. -/
structure Sealed (pairs : List (Digest × Digest)) (leaves : List Digest) :
    Prop where
  hashed : ∀ pair ∈ hasher.hashedPairs leaves, pair ∈ pairs
  apart : ∀ pair ∈ pairs, hasher.nodeHash pair.1 pair.2 ∉ leaves

variable {hasher} {pairs : List (Digest × Digest)}
  {leaves left right : List Digest}

theorem Halves.root_mem (halves : hasher.Halves leaves left right)
    (sealed : hasher.Sealed pairs leaves) :
    (hasher.treeRoot left, hasher.treeRoot right) ∈ pairs :=
  sealed.hashed _ ((halves.hashed _).mpr (Or.inr (Or.inr rfl)))

theorem Halves.sealed_left (halves : hasher.Halves leaves left right)
    (sealed : hasher.Sealed pairs leaves) : hasher.Sealed pairs left where
  hashed := by
    intro pair member
    exact sealed.hashed pair ((halves.hashed pair).mpr (Or.inl member))
  apart := by
    intro pair member leaf
    apply sealed.apart pair member
    simp [halves.parts, leaf]

theorem Halves.sealed_right (halves : hasher.Halves leaves left right)
    (sealed : hasher.Sealed pairs leaves) : hasher.Sealed pairs right where
  hashed := by
    intro pair member
    exact sealed.hashed pair
      ((halves.hashed pair).mpr (Or.inr (Or.inl member)))
  apart := by
    intro pair member leaf
    apply sealed.apart pair member
    simp [halves.parts, leaf]

theorem eq_of_treeRoot_eq (distinct : hasher.Distinct pairs)
    {first second : List Digest} (firstSealed : hasher.Sealed pairs first)
    (secondSealed : hasher.Sealed pairs second) (firstNonempty : first ≠ [])
    (secondNonempty : second ≠ [])
    (same : hasher.treeRoot first = hasher.treeRoot second) :
    first = second := by
  induction first using hasher.halvesInduction generalizing second with
  | nil => exact absurd rfl firstNonempty
  | singleton leaf =>
      cases second using hasher.halvesInduction with
      | nil => exact absurd rfl secondNonempty
      | singleton other => simpa using same
      | halves second left right halves =>
          rw [treeRoot_singleton, halves.root] at same
          have member := halves.root_mem secondSealed
          exact absurd (List.mem_singleton.mpr same.symm)
            (firstSealed.apart _ member)
  | halves first left right halves leftInduction rightInduction =>
      cases second using hasher.halvesInduction with
      | nil => exact absurd rfl secondNonempty
      | singleton other =>
          rw [treeRoot_singleton, halves.root] at same
          have member := halves.root_mem firstSealed
          exact absurd (List.mem_singleton.mpr same)
            (secondSealed.apart _ member)
      | halves second otherLeft otherRight otherHalves =>
          rw [halves.root, otherHalves.root] at same
          have equal := distinct.injective _ (halves.root_mem firstSealed) _
            (otherHalves.root_mem secondSealed) same
          rw [halves.parts, otherHalves.parts,
            leftInduction (halves.sealed_left firstSealed)
              (otherHalves.sealed_left secondSealed) halves.leftNonempty
              otherHalves.leftNonempty (congrArg Prod.fst equal),
            rightInduction (halves.sealed_right firstSealed)
              (otherHalves.sealed_right secondSealed) halves.rightNonempty
              otherHalves.rightNonempty (congrArg Prod.snd equal)]

theorem treeRoot_eq_emptyHash (distinct : hasher.Distinct pairs)
    (sealed : hasher.Sealed pairs leaves)
    (empty : hasher.treeRoot leaves = hasher.emptyHash) :
    leaves = [] ∨ leaves = [hasher.emptyHash] := by
  cases leaves using hasher.halvesInduction with
  | nil => exact Or.inl rfl
  | singleton leaf =>
      rw [treeRoot_singleton] at empty
      exact Or.inr (by rw [empty])
  | halves leaves left right halves =>
      rw [halves.root] at empty
      exact absurd empty (distinct.nonempty _ (halves.root_mem sealed))

variable (hasher)

/-- Two lists of leaves with one root are equal, except that the root of no
leaves is the sentinel, which is also the root of itself as a leaf. -/
theorem rootFromLevels_injective (first second : List Digest)
    (distinct : hasher.Distinct
      (hasher.hashedPairs first ++ hasher.hashedPairs second))
    (apart : ∀ pair ∈ hasher.hashedPairs first ++ hasher.hashedPairs second,
      hasher.nodeHash pair.1 pair.2 ∉ first ++ second)
    (same : rootFromLevels (hasher.buildTreeLevels first) =
      rootFromLevels (hasher.buildTreeLevels second)) :
    first = second ∨ (first = [] ∧ second = [hasher.emptyHash]) ∨
      (first = [hasher.emptyHash] ∧ second = []) := by
  have firstSealed : hasher.Sealed
      (hasher.hashedPairs first ++ hasher.hashedPairs second) first :=
    ⟨fun pair member => List.mem_append_left _ member,
      fun pair member leaf => apart pair member
        (List.mem_append_left _ leaf)⟩
  have secondSealed : hasher.Sealed
      (hasher.hashedPairs first ++ hasher.hashedPairs second) second :=
    ⟨fun pair member => List.mem_append_right _ member,
      fun pair member leaf => apart pair member
        (List.mem_append_right _ leaf)⟩
  rw [rootFromLevels_eq_treeRoot, rootFromLevels_eq_treeRoot] at same
  by_cases firstEmpty : first = []
  · subst firstEmpty
    rw [treeRoot_nil] at same
    rcases treeRoot_eq_emptyHash distinct secondSealed same.symm with
      rfl | rfl
    · exact Or.inl rfl
    · exact Or.inr (Or.inl ⟨rfl, rfl⟩)
  · by_cases secondEmpty : second = []
    · subst secondEmpty
      rw [treeRoot_nil] at same
      rcases treeRoot_eq_emptyHash distinct firstSealed same with rfl | rfl
      · exact Or.inl rfl
      · exact Or.inr (Or.inr ⟨rfl, rfl⟩)
    · exact Or.inl (eq_of_treeRoot_eq distinct firstSealed secondSealed
        firstEmpty secondEmpty same)

/-- No leaves, and the sentinel as a leaf, have one root. -/
theorem rootFromLevels_injective_sample :
    let hasher := LogHasher.ofSha256 TransparencyLog.sampleSha256
    let sentinel := [hasher.emptyHash]
    [] ≠ sentinel ∧
      ([] = sentinel ∨ (([] : List Bytes32) = [] ∧ sentinel = sentinel) ∨
        (([] : List Bytes32) = sentinel ∧ sentinel = [])) := by
  intro hasher sentinel
  refine ⟨List.cons_ne_nil _ _ |>.symm, ?_⟩
  apply rootFromLevels_injective hasher [] sentinel
  · exact ⟨by decide +kernel, by decide +kernel⟩
  · decide +kernel
  · decide +kernel

/-- Inner nodes are told apart, from leaves and from the sentinel too. -/
structure NodesDistinct : Prop where
  injective : ∀ left right otherLeft otherRight,
    hasher.nodeHash left right = hasher.nodeHash otherLeft otherRight →
      left = otherLeft ∧ right = otherRight
  leaf : ∀ left right entry,
    hasher.nodeHash left right ≠ hasher.leafHash entry
  empty : ∀ left right, hasher.nodeHash left right ≠ hasher.emptyHash

end LogHasher

/-- Digests that say what was hashed. -/
inductive SymbolicDigest
  | empty
  | leaf (entry : LogEntry)
  | node (left right : SymbolicDigest)
  deriving DecidableEq

def LogHasher.symbolic : LogHasher SymbolicDigest := ⟨.leaf, .node, .empty⟩

theorem LogHasher.nodesDistinct_symbolic : symbolic.NodesDistinct where
  injective := by simp [symbolic]
  leaf := by simp [symbolic]
  empty := by simp [symbolic]

/-- A leaf that hashes to the sentinel has the root of the empty log. -/
theorem rootFromLevels_not_injective :
    ¬ ∀ (Digest : Type) (hasher : LogHasher Digest), hasher.NodesDistinct →
      ∀ first second : List LogEntry,
        rootFromLevels (hasher.buildTreeLevels (first.map hasher.leafHash)) =
          rootFromLevels
            (hasher.buildTreeLevels (second.map hasher.leafHash)) →
        first.map hasher.leafHash = second.map hasher.leafHash := by
  intro injective
  let hasher : LogHasher SymbolicDigest :=
    { LogHasher.symbolic with leafHash := fun _ => .empty }
  have distinct : hasher.NodesDistinct :=
    ⟨LogHasher.nodesDistinct_symbolic.injective,
      fun left right _ => LogHasher.nodesDistinct_symbolic.empty left right,
      LogHasher.nodesDistinct_symbolic.empty⟩
  have equal := injective _ hasher distinct []
    [TransparencyLog.sampleEntry 0] (by
      simp only [hasher.rootFromLevels_eq_treeRoot, List.map_cons,
        List.map_nil, LogHasher.treeRoot_nil, LogHasher.treeRoot_singleton]
      rfl)
  simp at equal

end StellarConduit
