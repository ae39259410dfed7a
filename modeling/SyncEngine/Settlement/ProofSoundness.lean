import Mathlib.Data.List.Induction
import SyncEngine.Settlement.ConsistencyProof
import SyncEngine.Settlement.RootBinding

namespace StellarConduit

open Data

/-! What a verifier learns from an accepted proof that it was handed. -/

namespace LogHasher

variable {Digest : Type} (hasher : LogHasher Digest)

section

/-- The log of `proof.oldSize` leaves is the beginning of `newLeaves`. -/
structure ShowsPrefix (proof : ConsistencyProof Digest)
    (newLeaves : List Digest) : Prop where
  newSize : proof.newSize = newLeaves.length
  newRoot : proof.newRoot = rootFromLevels (hasher.buildTreeLevels newLeaves)
  oldRoot : proof.oldRoot = rootFromLevels
    (hasher.buildTreeLevels (newLeaves.take proof.oldSize))

/-- The proofs with a field that `verify_consistency_proof` takes on trust. -/
inductive Unchecked (proof : ConsistencyProof Digest)
    (newLeaves : List Digest) : Prop
  | noHashes (positive : 0 < proof.oldSize)
      (grows : proof.oldSize < proof.newSize)
      (noHashes : proof.proofHashes = [])
  | sameSize (positive : 0 < proof.oldSize)
      (same : proof.oldSize = proof.newSize)
      (equal : proof.oldRoot = proof.newRoot)
      (root : proof.newRoot =
        rootFromLevels (hasher.buildTreeLevels newLeaves))
      (otherSize : proof.newSize ≠ newLeaves.length)
  | newSize (positive : 0 < proof.oldSize)
      (grows : proof.oldSize < proof.newSize)
      (chained : hasher.chainHashes proof.proofHashes = some proof.oldRoot)
      (root : proof.newRoot =
        rootFromLevels (hasher.buildTreeLevels newLeaves))
      (otherSize : proof.newSize ≠ newLeaves.length)
  | foreignHashes (positive : 0 < proof.oldSize)
      (grows : proof.oldSize < proof.newSize)
      (chained : hasher.chainHashes proof.proofHashes = some proof.oldRoot)
      (root : proof.newRoot =
        rootFromLevels (hasher.buildTreeLevels newLeaves))
      (foreign : hasher.chainHashes proof.proofHashes ≠
        hasher.chainHashes
          (hasher.collectSubtreeHashes newLeaves proof.oldSize))

theorem chainHashes_eq_none {proofHashes : List Digest} :
    hasher.chainHashes proofHashes = none ↔ proofHashes = [] := by
  simp [chainHashes]

theorem chainHashes_collect_eq {newLeaves : List Digest} {oldSize : Nat}
    (positive : 0 < oldSize) (inside : oldSize ≤ newLeaves.length)
    (digest : Digest) :
    some digest = hasher.chainHashes
        (hasher.collectSubtreeHashes newLeaves oldSize) ↔
      digest = rootFromLevels
        (hasher.buildTreeLevels (newLeaves.take oldSize)) := by
  rw [hasher.chainHashes_collectSubtreeHashes inside positive,
    Option.some_inj]

variable [DecidableEq Digest]

/-- The verifier answers, and accepts only what shows a prefix. -/
def SoundlyVerified (proof : ConsistencyProof Digest)
    (newLeaves : List Digest) : Prop :=
  hasher.verifyConsistencyProof proof newLeaves ≠ none ∧
    (hasher.verifyConsistencyProof proof newLeaves = some true →
      hasher.ShowsPrefix proof newLeaves)

theorem verifyConsistencyProof_eq_none {proof : ConsistencyProof Digest}
    {newLeaves : List Digest} :
    hasher.verifyConsistencyProof proof newLeaves = none ↔
      0 < proof.oldSize ∧ proof.oldSize < proof.newSize ∧
        proof.proofHashes = [] := by
  unfold verifyConsistencyProof
  split
  · simp only [reduceCtorEq, false_iff]
    omega
  · split
    · simp only [reduceCtorEq, false_iff]
      omega
    · rw [Option.map_eq_none_iff, chainHashes_eq_none]
      have positive : 0 < proof.oldSize := by omega
      have grows : proof.oldSize < proof.newSize := by omega
      simp [positive, grows]

theorem verifyConsistencyProof_eq_true {proof : ConsistencyProof Digest}
    {newLeaves : List Digest} :
    hasher.verifyConsistencyProof proof newLeaves = some true ↔
      0 < proof.oldSize ∧
        proof.newRoot = rootFromLevels (hasher.buildTreeLevels newLeaves) ∧
        ((proof.oldSize = proof.newSize ∧ proof.oldRoot = proof.newRoot) ∨
          (proof.oldSize < proof.newSize ∧
            hasher.chainHashes proof.proofHashes = some proof.oldRoot)) := by
  unfold verifyConsistencyProof
  split
  · simp only [Option.some_inj, Bool.false_eq_true, false_iff]
    omega
  · have positive : 0 < proof.oldSize := by omega
    split
    · rename_i same
      have nonempty : 0 < proof.newSize := by omega
      simp only [Option.some_inj, decide_eq_true_eq, nonempty, same, true_and,
        lt_irrefl, false_and, or_false]
      exact and_comm
    · have grows : proof.oldSize < proof.newSize := by omega
      have differ : proof.oldSize ≠ proof.newSize := grows.ne
      simp only [positive, grows, differ, true_and, false_and, false_or,
        Option.map_eq_some_iff, decide_eq_true_eq]
      constructor
      · rintro ⟨reconstructed, chained, rfl, root⟩
        exact ⟨root.symm, chained⟩
      · rintro ⟨root, chained⟩
        exact ⟨proof.oldRoot, chained, rfl, root.symm⟩

/-- A consistency proof shows what the verifier takes it to show unless it is
one of those whose size or hashes the verifier does not check. -/
theorem verifyConsistencyProof_sound_iff (proof : ConsistencyProof Digest)
    (newLeaves : List Digest) :
    hasher.SoundlyVerified proof newLeaves ↔
      ¬ hasher.Unchecked proof newLeaves := by
  constructor
  · rintro ⟨answers, sound⟩ unchecked
    cases unchecked with
    | noHashes positive grows noHashes =>
        exact answers (hasher.verifyConsistencyProof_eq_none.mpr
          ⟨positive, grows, noHashes⟩)
    | sameSize positive same equal root otherSize =>
        have accepted := hasher.verifyConsistencyProof_eq_true.mpr
          ⟨positive, root, Or.inl ⟨same, equal⟩⟩
        exact otherSize (sound accepted).newSize
    | newSize positive grows chained root otherSize =>
        have accepted := hasher.verifyConsistencyProof_eq_true.mpr
          ⟨positive, root, Or.inr ⟨grows, chained⟩⟩
        exact otherSize (sound accepted).newSize
    | foreignHashes positive grows chained root foreign =>
        have shown := sound (hasher.verifyConsistencyProof_eq_true.mpr
          ⟨positive, root, Or.inr ⟨grows, chained⟩⟩)
        have inside : proof.oldSize ≤ newLeaves.length :=
          shown.newSize ▸ grows.le
        rw [chained] at foreign
        exact foreign ((hasher.chainHashes_collect_eq positive inside _).mpr
          shown.oldRoot)
  · intro checked
    refine ⟨?_, ?_⟩
    · intro panics
      obtain ⟨positive, grows, noHashes⟩ :=
        hasher.verifyConsistencyProof_eq_none.mp panics
      exact checked (.noHashes positive grows noHashes)
    · intro accepted
      obtain ⟨positive, root, ⟨same, equal⟩ | ⟨grows, chained⟩⟩ :=
        hasher.verifyConsistencyProof_eq_true.mp accepted
      · have size : proof.newSize = newLeaves.length := by
          by_contra otherSize
          exact checked (.sameSize positive same equal root otherSize)
        have whole : newLeaves.take proof.oldSize = newLeaves :=
          List.take_of_length_le (by omega)
        exact ⟨size, root, by rw [whole, equal, root]⟩
      · have size : proof.newSize = newLeaves.length := by
          by_contra otherSize
          exact checked (.newSize positive grows chained root otherSize)
        refine ⟨size, root, ?_⟩
        apply (hasher.chainHashes_collect_eq positive (by omega) _).mp
        rw [← chained]
        by_contra foreign
        exact checked (.foreignHashes positive grows chained root foreign)

/-- Under symbolic digests, a proof of growth without hashes, and one whose
only hash is the second of two leaves. -/
theorem verifyConsistencyProof_unsound :
    let old : SymbolicDigest := .leaf (TransparencyLog.sampleEntry 0)
    let new : SymbolicDigest := .leaf (TransparencyLog.sampleEntry 1)
    symbolic.NodesDistinct ∧
      ¬ symbolic.SoundlyVerified ⟨1, 2, old, .node old new, []⟩ [old, new] ∧
      ¬ symbolic.SoundlyVerified ⟨1, 2, new, .node old new, [new]⟩
        [old, new] := by
  refine ⟨nodesDistinct_symbolic, ?_, ?_⟩
  · rintro ⟨answers, _⟩
    exact answers (by decide +kernel)
  · rintro ⟨_, sound⟩
    have shown := sound (by decide +kernel)
    exact absurd shown.oldRoot (by decide +kernel)

end

/-! The leaf that a path leads to, read from the root down. -/

/-- `true` stands for a sibling on the right. -/
def locate : Nat → List Bool → Option Nat
  | width, [] => if width = 1 then some 0 else none
  | width, siblingIsRight :: below =>
      if width ≤ 1 then
        none
      else if siblingIsRight then
        locate (nextPowerOfTwo width / 2) below
      else
        (locate (width - nextPowerOfTwo width / 2) below).map
          (nextPowerOfTwo width / 2 + ·)

def sides (path : List (Digest × Bool)) : List Bool :=
  path.reverse.map Prod.snd

theorem climbPairs_append_singleton (path : List (Digest × Bool))
    (step : Digest × Bool) (current : Digest) :
    hasher.climbPairs (path ++ [step]) current =
      hasher.climbPairs path current ++
        [climbPair (path.foldl hasher.climb current) step] := by
  induction path generalizing current with
  | nil => rfl
  | cons first path induction =>
      simp [climbPairs, induction]

variable {hasher} {pairs : List (Digest × Digest)}
  {leaves left right : List Digest}

theorem Halves.locate (halves : hasher.Halves leaves left right)
    (siblingIsRight : Bool) (below : List Bool) :
    LogHasher.locate leaves.length (siblingIsRight :: below) =
      if siblingIsRight then LogHasher.locate left.length below
      else (LogHasher.locate right.length below).map (left.length + ·) := by
  have leftPositive := List.length_pos_of_ne_nil halves.leftNonempty
  have rightPositive := List.length_pos_of_ne_nil halves.rightNonempty
  have lengths : leaves.length = left.length + right.length := by
    rw [halves.parts, List.length_append]
  have rightWidth : leaves.length - nextPowerOfTwo leaves.length / 2 =
      right.length := by
    rw [← halves.width]
    omega
  rw [LogHasher.locate, if_neg (by omega), rightWidth, ← halves.width]

/-- A value that climbs to the root is the leaf that the path leads to, or it
is no leaf. -/
theorem locate_of_climbed (distinct : hasher.Distinct pairs)
    (sealed : hasher.Sealed pairs leaves) {path : List (Digest × Bool)}
    {value : Digest}
    (climbed : ∀ pair ∈ hasher.climbPairs path value, pair ∈ pairs)
    (root : path.foldl hasher.climb value = hasher.treeRoot leaves) :
    (∃ index, locate leaves.length (sides path) = some index ∧
      leaves[index]? = some value) ∨
    (locate leaves.length (sides path) = none ∧
      (value = hasher.emptyHash ∨
        ∃ pair ∈ pairs, value = hasher.nodeHash pair.1 pair.2)) := by
  induction path using List.reverseRecOn generalizing leaves with
  | nil =>
      rw [List.foldl_nil] at root
      cases leaves using hasher.halvesInduction with
      | nil => exact Or.inr ⟨rfl, Or.inl (by rw [root, treeRoot_nil])⟩
      | singleton leaf =>
          rw [treeRoot_singleton] at root
          exact Or.inl ⟨0, rfl, by rw [root]; rfl⟩
      | halves leaves left right halves =>
          have leftPositive := List.length_pos_of_ne_nil halves.leftNonempty
          have rightPositive :=
            List.length_pos_of_ne_nil halves.rightNonempty
          have wide : leaves.length ≠ 1 := by
            rw [halves.parts, List.length_append]
            omega
          refine Or.inr ⟨by simp [sides, locate, wide], Or.inr ?_⟩
          exact ⟨_, halves.root_mem sealed, by rw [root, halves.root]⟩
  | append_singleton below step induction =>
      rw [hasher.climbPairs_append_singleton] at climbed
      simp only [List.forall_mem_append, List.forall_mem_singleton] at climbed
      obtain ⟨belowClimbed, topClimbed⟩ := climbed
      rw [List.foldl_append, List.foldl_cons, List.foldl_nil, climb_eq] at root
      have sided : sides (below ++ [step]) = step.2 :: sides below := by
        simp [sides]
      cases leaves using hasher.halvesInduction with
      | nil =>
          rw [treeRoot_nil] at root
          exact absurd root (distinct.nonempty _ topClimbed)
      | singleton leaf =>
          rw [treeRoot_singleton] at root
          exact absurd (List.mem_singleton.mpr root)
            (sealed.apart _ topClimbed)
      | halves leaves left right halves =>
          rw [halves.root] at root
          have top := distinct.injective _ topClimbed _
            (halves.root_mem sealed) root
          rw [sided, halves.locate]
          cases direction : step.2 with
          | true =>
              simp only [climbPair, direction, if_true, Prod.mk.injEq] at top
              have found := induction (halves.sealed_left sealed) belowClimbed
                top.1
              rcases found with ⟨index, located, leaf⟩ | ⟨missing, foreign⟩
              · refine Or.inl ⟨index, located, ?_⟩
                have inside := (List.getElem?_eq_some_iff.mp leaf).1
                rw [halves.parts, List.getElem?_append_left inside, leaf]
              · exact Or.inr ⟨missing, foreign⟩
          | false =>
              simp only [climbPair, direction, Bool.false_eq_true, if_false,
                Prod.mk.injEq] at top
              have found := induction (halves.sealed_right sealed)
                belowClimbed top.2
              rcases found with ⟨index, located, leaf⟩ | ⟨missing, foreign⟩
              · refine Or.inl ⟨left.length + index, by simp [located], ?_⟩
                rw [halves.parts, List.getElem?_append_right (by omega)]
                simpa using leaf
              · exact Or.inr ⟨by simp [missing], foreign⟩

end LogHasher

namespace TransparencyLog

variable {Digest : Type} [DecidableEq Digest] (hasher : LogHasher Digest)

/-- The leaf hash of `proof` is stored in `log` at the index of `proof`. -/
def Stores (log : TransparencyLog Digest) (proof : InclusionProof Digest) :
    Prop :=
  proof.leafIndex < log.len ∧
    log.leaves[proof.leafIndex]? = some proof.leafHash

/-- A proof that is accepted against the root of a log names the leaf at its
index just when its path leads to a leaf with the hash stored there; the
verifier does not read the index. -/
theorem inclusionProof_sound_iff (entries : List LogEntry)
    (proof : InclusionProof Digest)
    (distinct : hasher.Distinct
      (hasher.hashedPairs (fromEntries hasher entries).leaves ++
        hasher.climbPairs proof.path proof.leafHash))
    (apart : ∀ pair ∈
      hasher.hashedPairs (fromEntries hasher entries).leaves ++
        hasher.climbPairs proof.path proof.leafHash,
      hasher.nodeHash pair.1 pair.2 ∉ (fromEntries hasher entries).leaves)
    (genuine : hasher.emptyHash ∉ (fromEntries hasher entries).leaves)
    (root : proof.rootHash = (fromEntries hasher entries).rootHash)
    (verified : hasher.verifyInclusionProof proof = true) :
    Stores (fromEntries hasher entries) proof ↔
      ∃ index,
        LogHasher.locate (fromEntries hasher entries).len
          (LogHasher.sides proof.path) = some index ∧
        (fromEntries hasher entries).leaves[index]? =
          (fromEntries hasher entries).leaves[proof.leafIndex]? := by
  have built := built_fromEntries hasher entries
  generalize fromEntries hasher entries = log at *
  have sized : log.len = log.leaves.length := log.sized.symm
  have sealed : hasher.Sealed (hasher.hashedPairs log.leaves ++
      hasher.climbPairs proof.path proof.leafHash) log.leaves :=
    ⟨fun pair member => List.mem_append_left _ member, apart⟩
  have climbs : proof.path.foldl hasher.climb proof.leafHash =
      hasher.treeRoot log.leaves := by
    rw [← hasher.rootFromLevels_eq_treeRoot, ← built.root]
    exact (of_decide_eq_true verified).trans root
  have found := LogHasher.locate_of_climbed distinct sealed
    (fun pair member => List.mem_append_right _ member) climbs
  rw [Stores, sized]
  rcases found with ⟨index, located, leaf⟩ | ⟨missing, foreign⟩
  · constructor
    · rintro ⟨_, stored⟩
      exact ⟨index, located, leaf.trans stored.symm⟩
    · rintro ⟨other, otherLocated, equal⟩
      obtain rfl : index = other :=
        Option.some_inj.mp (located.symm.trans otherLocated)
      have stored := equal.symm.trans leaf
      exact ⟨(List.getElem?_eq_some_iff.mp stored).1, stored⟩
  · constructor
    · rintro ⟨_, stored⟩
      have member := List.mem_of_getElem? stored
      rcases foreign with empty | ⟨pair, hashed, node⟩
      · exact absurd (empty ▸ member) genuine
      · exact absurd (node ▸ member) (apart pair hashed)
    · rintro ⟨index, located, _⟩
      simp [missing] at located

/-- The proof for the first of two entries is accepted under the index of the
second. -/
theorem inclusionProof_unsound :
    let log := fromEntries LogHasher.symbolic [sampleEntry 0, sampleEntry 1]
    let proof : InclusionProof SymbolicDigest :=
      ⟨1, .leaf (sampleEntry 0), [(.leaf (sampleEntry 1), true)], log.rootHash⟩
    LogHasher.symbolic.NodesDistinct ∧
      (∀ entry, LogHasher.symbolic.leafHash entry ≠
        LogHasher.symbolic.emptyHash) ∧
      LogHasher.symbolic.verifyInclusionProof proof = true ∧
      ¬ Stores log proof := by
  refine ⟨LogHasher.nodesDistinct_symbolic, ?_, by decide +kernel, ?_⟩
  · simp [LogHasher.symbolic]
  · rintro ⟨_, stored⟩
    exact absurd stored (by decide +kernel)

def sampleProof (leafIndex : Nat) : InclusionProof Bytes32 :=
  let hasher := LogHasher.ofSha256 sampleSha256
  let log := fromEntries hasher sampleEntries
  { leafIndex := leafIndex
    leafHash := hasher.leafHash (sampleEntry 0)
    path := [(hasher.leafHash (sampleEntry 1), true),
      (hasher.leafHash (sampleEntry 2), true)]
    rootHash := log.rootHash }

/-- The pairs that are hashed for the log and along the path, which does not
depend on the index that is claimed. -/
def samplePairs : List (Bytes32 × Bytes32) :=
  let hasher := LogHasher.ofSha256 sampleSha256
  hasher.hashedPairs (fromEntries hasher sampleEntries).leaves ++
    hasher.climbPairs (sampleProof 0).path (sampleProof 0).leafHash

theorem samplePairs_distinct :
    (LogHasher.ofSha256 sampleSha256).Distinct samplePairs :=
  ⟨by decide +kernel, by decide +kernel⟩

theorem samplePairs_apart :
    ∀ pair ∈ samplePairs,
      (LogHasher.ofSha256 sampleSha256).nodeHash pair.1 pair.2 ∉
        (fromEntries (LogHasher.ofSha256 sampleSha256)
          sampleEntries).leaves := by
  decide +kernel

/-- The path to the first of three leaves, under its own index and under
another one. -/
theorem inclusionProof_sound_iff_sample :
    Stores (fromEntries (LogHasher.ofSha256 sampleSha256) sampleEntries)
        (sampleProof 0) ∧
      ¬ Stores (fromEntries (LogHasher.ofSha256 sampleSha256) sampleEntries)
        (sampleProof 1) := by
  have genuine : (LogHasher.ofSha256 sampleSha256).emptyHash ∉
      (fromEntries (LogHasher.ofSha256 sampleSha256) sampleEntries).leaves := by
    decide +kernel
  have verified : (LogHasher.ofSha256 sampleSha256).verifyInclusionProof
      (sampleProof 0) = true := by
    decide +kernel
  constructor
  · apply (inclusionProof_sound_iff (LogHasher.ofSha256 sampleSha256)
      sampleEntries (sampleProof 0) samplePairs_distinct samplePairs_apart
      genuine rfl verified).mpr
    exact ⟨0, by decide +kernel, rfl⟩
  · intro stored
    obtain ⟨index, located, equal⟩ :=
      (inclusionProof_sound_iff (LogHasher.ofSha256 sampleSha256)
        sampleEntries (sampleProof 1) samplePairs_distinct samplePairs_apart
        genuine rfl verified).mp stored
    have first : LogHasher.locate
        (fromEntries (LogHasher.ofSha256 sampleSha256) sampleEntries).len
        (LogHasher.sides (sampleProof 1).path) = some 0 := by
      decide +kernel
    obtain rfl : 0 = index := Option.some_inj.mp (first.symm.trans located)
    exact absurd equal (by decide +kernel)

end TransparencyLog

end StellarConduit
