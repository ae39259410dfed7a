import SyncEngine.Settlement.TransparencyLog

namespace StellarConduit

open Data

/-! Where inclusion proofs fail. The tree promotes a node without a neighbour
as it is, the generator gives it `EMPTY_HASH` for a sibling, and the verifier
hashes the two. -/

def adjacentPairs : List Digest → List (Digest × Digest)
  | first :: second :: rest => (first, second) :: adjacentPairs rest
  | _ => []

theorem mem_of_mem_adjacentPairs {level : List Digest} {left right : Digest}
    (member : (left, right) ∈ adjacentPairs level) :
    left ∈ level ∧ right ∈ level := by
  induction level using adjacentPairs.induct with
  | case1 first second rest induction =>
      simp only [adjacentPairs, List.mem_cons, Prod.mk.injEq] at member
      rcases member with ⟨rfl, rfl⟩ | member
      · simp
      · simp [induction member]
  | case2 level small => simp [adjacentPairs] at member

theorem mem_adjacentPairs {level : List Digest} {index : Nat}
    {left right : Digest} (even : index % 2 = 0)
    (atIndex : level[index]? = some left)
    (next : level[index + 1]? = some right) :
    (left, right) ∈ adjacentPairs level := by
  induction level using adjacentPairs.induct generalizing index with
  | case1 first second rest induction =>
      match index with
      | 0 => simp_all [adjacentPairs]
      | 1 => omega
      | index + 2 =>
          have evenBefore : index % 2 = 0 := by omega
          exact List.mem_cons_of_mem _ (induction evenBefore atIndex next)
  | case2 level small =>
      cases level with
      | nil => simp at next
      | cons first rest =>
          cases rest with
          | nil => simp at next
          | cons second rest => exact absurd rfl (small first second rest)

theorem mem_pairUp {node : Digest → Digest → Digest} {level : List Digest}
    {value : Digest} (member : value ∈ HashTree.pairUp node level) :
    value ∈ level ∨
      ∃ left right, (left, right) ∈ adjacentPairs level ∧
        value = node left right := by
  induction level using adjacentPairs.induct with
  | case1 first second rest induction =>
      simp only [HashTree.pairUp_cons_cons, List.mem_cons] at member
      rcases member with rfl | member
      · exact Or.inr ⟨first, second, by simp [adjacentPairs], rfl⟩
      · rcases induction member with inherited | ⟨left, right, pair, hashed⟩
        · exact Or.inl (by simp [inherited])
        · exact Or.inr ⟨left, right, by simp [adjacentPairs, pair], hashed⟩
  | case2 level small =>
      cases level with
      | nil => simp at member
      | cons first rest =>
          cases rest with
          | nil => exact Or.inl member
          | cons second rest => exact absurd rfl (small first second rest)

namespace LogHasher

variable {Digest : Type} (hasher : LogHasher Digest)

def pathFrom (level : List Digest) (idx : Nat) : List (Digest × Bool) :=
  hasher.siblingPath (hasher.levelsFrom level).dropLast idx

theorem pathFrom_of_le_one {level : List Digest} (small : level.length ≤ 1)
    (idx : Nat) : hasher.pathFrom level idx = [] := by
  rw [pathFrom, hasher.levelsFrom_of_le_one small]
  rfl

theorem pathFrom_of_one_lt {level : List Digest} (wide : 1 < level.length)
    (idx : Nat) :
    hasher.pathFrom level idx =
      hasher.siblingStep level idx ::
        hasher.pathFrom (HashTree.pairUp hasher.nodeHash level) (idx / 2) := by
  rw [pathFrom, hasher.levelsFrom_of_one_lt wide,
    List.dropLast_cons_of_ne_nil (hasher.levelsFrom_ne_nil _)]
  rfl

theorem climb_siblingStep {level : List Digest} {idx : Nat} {value : Digest}
    (atIdx : level[idx]? = some value)
    (paired : idx % 2 = 0 → idx + 1 < level.length) :
    (HashTree.pairUp hasher.nodeHash level)[idx / 2]? =
      some (hasher.climb value (hasher.siblingStep level idx)) := by
  rw [HashTree.pairUp_getElem?]
  by_cases even : idx % 2 = 0
  · have position : idx / 2 * 2 = idx := by omega
    have neighbour := List.getElem?_eq_getElem (paired even)
    simp [position, atIdx, neighbour, siblingStep, even, climb]
  · have position : idx / 2 * 2 + 1 = idx := by omega
    have before : idx / 2 * 2 = idx - 1 := by omega
    have inside : idx < level.length :=
      (List.getElem?_eq_some_iff.mp atIdx).1
    have neighbour := List.getElem?_eq_getElem
      (by omega : idx - 1 < level.length)
    rw [position, before, atIdx, neighbour]
    simp [neighbour, siblingStep, even, climb]

theorem climb_pathFrom {level : List Digest} {idx : Nat} {value : Digest}
    (atIdx : level[idx]? = some value)
    (paired : HashTree.PairedToRoot level.length idx) :
    (hasher.pathFrom level idx).foldl hasher.climb value =
      HashTree.levelRoot hasher.nodeHash hasher.emptyHash level := by
  induction level using levelsFrom.induct hasher generalizing idx value with
  | case1 level wide induction =>
      obtain ⟨first, rest⟩ := (HashTree.pairedToRoot_step wide idx).mp paired
      rw [hasher.pathFrom_of_one_lt wide, List.foldl_cons,
        ← HashTree.levelRoot_pairUp]
      exact induction (hasher.climb_siblingStep atIdx first)
        (by rwa [HashTree.length_pairUp])
  | case2 level small =>
      have inside : idx < level.length :=
        (List.getElem?_eq_some_iff.mp atIdx).1
      obtain ⟨only, rfl⟩ :=
        List.length_eq_one_iff.mp (by omega : level.length = 1)
      obtain rfl : idx = 0 := by simpa using inside
      simp_all [hasher.pathFrom_of_le_one]

def climbPair (current : Digest) (step : Digest × Bool) : Digest × Digest :=
  if step.2 then (current, step.1) else (step.1, current)

theorem climb_eq (current : Digest) (step : Digest × Bool) :
    hasher.climb current step =
      hasher.nodeHash (climbPair current step).1
        (climbPair current step).2 := by
  unfold climb climbPair
  split <;> rfl

theorem climbPair_inj {first second : Digest} {step : Digest × Bool}
    (same : climbPair first step = climbPair second step) :
    first = second := by
  unfold climbPair at same
  split at same
  · exact congrArg Prod.fst same
  · exact congrArg Prod.snd same

theorem climbPair_mem {level : List Digest} {idx : Nat} {value : Digest}
    (atIdx : level[idx]? = some value)
    (paired : idx % 2 = 0 → idx + 1 < level.length) :
    climbPair value (hasher.siblingStep level idx) ∈ adjacentPairs level := by
  by_cases even : idx % 2 = 0
  · have neighbour := List.getElem?_eq_getElem (paired even)
    simpa [climbPair, siblingStep, even, neighbour] using
      mem_adjacentPairs even atIdx neighbour
  · have inside : idx < level.length :=
      (List.getElem?_eq_some_iff.mp atIdx).1
    have neighbour := List.getElem?_eq_getElem
      (by omega : idx - 1 < level.length)
    have after : idx - 1 + 1 = idx := by omega
    have pair := mem_adjacentPairs (by omega : (idx - 1) % 2 = 0) neighbour
      (by rw [after]; exact atIdx)
    simpa [climbPair, siblingStep, even, neighbour] using pair

def climbPairs : List (Digest × Bool) → Digest → List (Digest × Digest)
  | [], _ => []
  | step :: path, current =>
      climbPair current step :: climbPairs path (hasher.climb current step)

/-- No two of `pairs` hash to one node, and none to the sentinel. -/
structure Distinct (pairs : List (Digest × Digest)) : Prop where
  injective : ∀ first ∈ pairs, ∀ second ∈ pairs,
    hasher.nodeHash first.1 first.2 = hasher.nodeHash second.1 second.2 →
      first = second
  nonempty : ∀ pair ∈ pairs,
    hasher.nodeHash pair.1 pair.2 ≠ hasher.emptyHash

/-- A digest that neither is the sentinel nor hashes it in from the right. -/
def Genuine (pairs : List (Digest × Digest)) (value : Digest) : Prop :=
  value ≠ hasher.emptyHash ∧
    ∀ current, (current, hasher.emptyHash) ∈ pairs →
      value ≠ hasher.nodeHash current hasher.emptyHash

theorem genuine_pairUp {pairs : List (Digest × Digest)} {level : List Digest}
    (distinct : hasher.Distinct pairs)
    (asked : ∀ pair ∈ adjacentPairs level, pair ∈ pairs)
    (genuine : ∀ value ∈ level, hasher.Genuine pairs value) :
    ∀ value ∈ HashTree.pairUp hasher.nodeHash level,
      hasher.Genuine pairs value := by
  intro value member
  rcases mem_pairUp member with inherited | ⟨left, right, pair, rfl⟩
  · exact genuine value inherited
  · refine ⟨distinct.nonempty _ (asked _ pair), ?_⟩
    intro current hashed same
    have equal := distinct.injective _ (asked _ pair) _ hashed same
    exact (genuine right (mem_of_mem_adjacentPairs pair).2).1
      (congrArg Prod.snd equal)

theorem paired_of_climb {pairs : List (Digest × Digest)}
    (distinct : hasher.Distinct pairs) {level : List Digest} {idx : Nat}
    {current : Digest} (inside : idx < level.length)
    (built : ∀ pair ∈ adjacentPairs level, pair ∈ pairs)
    (climbed : climbPair current (hasher.siblingStep level idx) ∈ pairs)
    (genuine : ∀ value ∈ level, hasher.Genuine pairs value)
    (above : (HashTree.pairUp hasher.nodeHash level)[idx / 2]? =
      some (hasher.climb current (hasher.siblingStep level idx))) :
    level[idx]? = some current ∧ (idx % 2 = 0 → idx + 1 < level.length) := by
  have atIdx := List.getElem?_eq_getElem inside
  by_cases paired : idx % 2 = 0 → idx + 1 < level.length
  · refine ⟨?_, paired⟩
    have same := (hasher.climb_siblingStep atIdx paired).symm.trans above
    rw [Option.some_inj, climb_eq, climb_eq] at same
    have equal := distinct.injective _
      (built _ (hasher.climbPair_mem atIdx paired)) _ climbed same
    rw [atIdx, climbPair_inj equal]
  · -- the node is promoted, but the proof hashes it with the sentinel
    obtain ⟨even, last⟩ := Classical.not_imp.mp paired
    have position : idx / 2 * 2 = idx := by omega
    have missing : level[idx + 1]? = none :=
      List.getElem?_eq_none (by omega)
    have step : hasher.siblingStep level idx = (hasher.emptyHash, true) := by
      simp [siblingStep, even, missing]
    rw [step] at climbed above
    rw [HashTree.pairUp_getElem?, position, atIdx, missing] at above
    exact absurd (Option.some_inj.mp above)
      ((genuine _ (List.getElem_mem inside)).2 current climbed)

theorem paired_of_climb_pathFrom {pairs : List (Digest × Digest)}
    (distinct : hasher.Distinct pairs) {level : List Digest} {idx : Nat}
    {current : Digest} (inside : idx < level.length)
    (built : ∀ pair ∈ (hasher.levelsFrom level).flatMap adjacentPairs,
      pair ∈ pairs)
    (climbed : ∀ pair ∈ hasher.climbPairs (hasher.pathFrom level idx) current,
      pair ∈ pairs)
    (genuine : ∀ value ∈ level, hasher.Genuine pairs value)
    (root : (hasher.pathFrom level idx).foldl hasher.climb current =
      HashTree.levelRoot hasher.nodeHash hasher.emptyHash level) :
    level[idx]? = some current ∧ HashTree.PairedToRoot level.length idx := by
  induction level using levelsFrom.induct hasher
      generalizing idx current with
  | case1 level wide induction =>
      rw [hasher.levelsFrom_of_one_lt wide] at built
      rw [hasher.pathFrom_of_one_lt wide] at climbed root
      simp only [List.flatMap_cons, List.forall_mem_append] at built
      simp only [climbPairs, List.forall_mem_cons] at climbed
      rw [List.foldl_cons, ← HashTree.levelRoot_pairUp] at root
      obtain ⟨above, rest⟩ := induction
        (by rw [HashTree.length_pairUp]; omega) built.2 climbed.2
        (hasher.genuine_pairUp distinct built.1 genuine) root
      rw [HashTree.length_pairUp] at rest
      obtain ⟨atIdx, first⟩ := hasher.paired_of_climb distinct inside built.1
        climbed.1 genuine above
      exact ⟨atIdx, (HashTree.pairedToRoot_step wide idx).mpr ⟨first, rest⟩⟩
  | case2 level small =>
      obtain ⟨only, rfl⟩ :=
        List.length_eq_one_iff.mp (by omega : level.length = 1)
      obtain rfl : idx = 0 := by simpa using inside
      have same : current = only := by
        simpa [hasher.pathFrom_of_le_one] using root
      exact ⟨by simp [same],
        HashTree.pairedToRoot_of_le_one (Nat.le_of_not_lt small) 0⟩

end LogHasher

/-! The log at SHA-256. -/

/-- `sha256` tells the messages it is used on here apart, and maps none of them
to the sentinel. -/
structure CollisionFree (sha256 : Bytes → Bytes32) (messages : List Bytes) :
    Prop where
  injective : ∀ first ∈ messages, ∀ second ∈ messages,
    sha256 first = sha256 second → first = second
  nonzero : ∀ message ∈ messages, sha256 message ≠ Vector.replicate 32 0

theorem nodeMessage_injective {left right otherLeft otherRight : Bytes32}
    (same : nodeMessage left right = nodeMessage otherLeft otherRight) :
    left = otherLeft ∧ right = otherRight := by
  have domains : (nodeDomain ++ left.toVec).length =
      (nodeDomain ++ otherLeft.toVec).length := by
    simp [Bytes32.toVec]
  obtain ⟨lefts, rights⟩ := List.append_inj same domains
  exact ⟨Bytes32.toVec_injective (List.append_cancel_left lefts),
    Bytes32.toVec_injective rights⟩

theorem leafMessage_ne_nodeMessage (entry : LogEntry) (left right : Bytes32) :
    leafMessage entry ≠ nodeMessage left right := by
  intro same
  have sameLength : leafDomain.length = nodeDomain.length := by
    decide +kernel
  have differ : leafDomain ≠ nodeDomain := by decide +kernel
  rw [leafMessage, nodeMessage, List.append_assoc] at same
  exact differ (List.append_inj same sameLength).1

namespace TransparencyLog

section

variable {Digest : Type} (hasher : LogHasher Digest)

/-- What every log satisfies that was built by appending. -/
structure Built (log : TransparencyLog Digest) : Prop where
  leaves : log.leaves = log.entries.map hasher.leafHash
  root : log.root = rootFromLevels (hasher.buildTreeLevels log.leaves)

theorem built_new : Built hasher (new hasher) where
  leaves := rfl
  root := by
    rw [hasher.rootFromLevels_buildTreeLevels]
    simp [new, HashTree.levelRoot]

theorem built_append {log : TransparencyLog Digest} (built : Built hasher log)
    (entry : LogEntry) : Built hasher (append hasher log entry) where
  leaves := by simp [append, built.leaves]
  root := rfl

theorem built_fromEntries (entries : List LogEntry) :
    Built hasher (fromEntries hasher entries) := by
  unfold fromEntries
  generalize start : new hasher = log
  have built : Built hasher log := start ▸ built_new hasher
  clear start
  induction entries generalizing log with
  | nil => exact built
  | cons entry rest induction => exact induction _ (built_append hasher built _)

/-- The log gives out a proof for `index` that names its own root and leaf and
that the verifier accepts. -/
def ProvesInclusion [DecidableEq Digest] (log : TransparencyLog Digest)
    (index : Nat) : Prop :=
  ∃ proof, log.inclusionProof hasher index = some proof ∧
    proof.rootHash = log.rootHash ∧
    (log.get index).map hasher.leafHash = some proof.leafHash ∧
    hasher.verifyInclusionProof proof = true

instance [DecidableEq Digest] (log : TransparencyLog Digest) (index : Nat) :
    Decidable (ProvesInclusion hasher log index) :=
  match given : log.inclusionProof hasher index with
  | none => isFalse fun ⟨_, equal, _⟩ => nomatch given.symm.trans equal
  | some proof =>
      decidable_of_iff (proof.rootHash = log.rootHash ∧
          (log.get index).map hasher.leafHash = some proof.leafHash ∧
          hasher.verifyInclusionProof proof = true)
        ⟨fun holds => ⟨proof, given, holds⟩, fun ⟨_, equal, holds⟩ =>
          Option.some_inj.mp (given.symm.trans equal) ▸ holds⟩

variable {hasher} {log : TransparencyLog Digest}

theorem provesInclusion_iff [DecidableEq Digest] (built : Built hasher log)
    {index : Nat} {leafHash : Digest}
    (atIndex : log.leaves[index]? = some leafHash) :
    ProvesInclusion hasher log index ↔
      (hasher.pathFrom log.leaves index).foldl hasher.climb leafHash =
        HashTree.levelRoot hasher.nodeHash hasher.emptyHash log.leaves := by
  have nonempty : log.leaves ≠ [] := by
    rintro empty
    simp [empty] at atIndex
  have levels : (hasher.buildTreeLevels log.leaves).levels =
      hasher.levelsFrom log.leaves := by
    simp [LogHasher.buildTreeLevels, nonempty]
  have entry : (log.get index).map hasher.leafHash = some leafHash := by
    rw [← atIndex, built.leaves, List.getElem?_map]
    rfl
  have root := hasher.rootFromLevels_buildTreeLevels log.leaves
  constructor
  · rintro ⟨proof, given, _, _, accepted⟩
    rw [inclusionProof, LogHasher.inclusionProofFromLevels, atIndex,
      Option.map_some, Option.some_inj, levels] at given
    subst given
    simpa [LogHasher.verifyInclusionProof, LogHasher.pathFrom, root] using
      accepted
  · intro climbed
    refine ⟨_, by rw [inclusionProof, LogHasher.inclusionProofFromLevels,
      atIndex, Option.map_some], built.root.symm, entry, ?_⟩
    simpa [LogHasher.verifyInclusionProof, LogHasher.pathFrom, levels, root]
      using climbed

end

variable (sha256 : Bytes → Bytes32)

/-- What is hashed when the log is built and the proof for `index` verified. -/
def hashedMessages (log : TransparencyLog Bytes32) (index : Nat) :
    List Bytes :=
  let hasher := LogHasher.ofSha256 sha256
  let built := (hasher.levelsFrom log.leaves).flatMap adjacentPairs
  let climbed := log.leaves[index]?.toList.flatMap
    (hasher.climbPairs (hasher.pathFrom log.leaves index))
  log.entries.map leafMessage ++
    (built ++ climbed).map fun pair => nodeMessage pair.1 pair.2

variable {sha256}

theorem distinct_of_collisionFree {pairs : List (Bytes32 × Bytes32)}
    {messages : List Bytes} (free : CollisionFree sha256 messages)
    (hashed : ∀ pair ∈ pairs, nodeMessage pair.1 pair.2 ∈ messages) :
    (LogHasher.ofSha256 sha256).Distinct pairs where
  injective := by
    intro first firstMember second secondMember same
    have equal := free.injective _ (hashed _ firstMember) _
      (hashed _ secondMember) same
    obtain ⟨lefts, rights⟩ := nodeMessage_injective equal
    exact Prod.ext lefts rights
  nonempty := by
    intro pair member
    exact free.nonzero _ (hashed _ member)

theorem genuine_leafHash {pairs : List (Bytes32 × Bytes32)}
    {messages : List Bytes} (free : CollisionFree sha256 messages)
    (hashed : ∀ pair ∈ pairs, nodeMessage pair.1 pair.2 ∈ messages)
    {entry : LogEntry} (member : leafMessage entry ∈ messages) :
    (LogHasher.ofSha256 sha256).Genuine pairs
      ((LogHasher.ofSha256 sha256).leafHash entry) := by
  refine ⟨free.nonzero _ member, ?_⟩
  intro current pair same
  have equal := free.injective _ member _ (hashed _ pair) same
  exact leafMessage_ne_nodeMessage _ _ _ equal

/-- A log proves the inclusion of a leaf whose way to the root is paired on
every level, and of no other one. -/
theorem inclusionProof_complete_iff (sha256 : Bytes → Bytes32)
    (entries : List LogEntry) (index : Nat)
    (inside : index <
      (fromEntries (LogHasher.ofSha256 sha256) entries).len) :
    let log := fromEntries (LogHasher.ofSha256 sha256) entries
    (HashTree.PairedToRoot log.len index →
      ProvesInclusion (LogHasher.ofSha256 sha256) log index) ∧
    (CollisionFree sha256 (hashedMessages sha256 log index) →
      ProvesInclusion (LogHasher.ofSha256 sha256) log index →
      HashTree.PairedToRoot log.len index) := by
  intro log
  have built : Built (LogHasher.ofSha256 sha256) log :=
    built_fromEntries _ entries
  have sized : log.len = log.leaves.length := log.sized.symm
  have within : index < log.leaves.length := sized ▸ inside
  have atIndex := List.getElem?_eq_getElem within
  rw [provesInclusion_iff built atIndex, sized]
  refine ⟨LogHasher.climb_pathFrom _ atIndex, ?_⟩
  intro free root
  let pairs :=
    ((LogHasher.ofSha256 sha256).levelsFrom log.leaves).flatMap
        adjacentPairs ++
      (LogHasher.ofSha256 sha256).climbPairs
        ((LogHasher.ofSha256 sha256).pathFrom log.leaves index)
        log.leaves[index]
  have messages : hashedMessages sha256 log index =
      log.entries.map leafMessage ++
        pairs.map fun pair => nodeMessage pair.1 pair.2 := by
    simp [hashedMessages, pairs, atIndex]
  rw [messages] at free
  have hashed : ∀ pair ∈ pairs, nodeMessage pair.1 pair.2 ∈
      log.entries.map leafMessage ++
        pairs.map fun pair => nodeMessage pair.1 pair.2 :=
    fun pair member => List.mem_append_right _ (List.mem_map_of_mem member)
  have genuine : ∀ value ∈ log.leaves,
      (LogHasher.ofSha256 sha256).Genuine pairs value := by
    rw [built.leaves, List.forall_mem_map]
    intro entry member
    exact genuine_leafHash free hashed
      (List.mem_append_left _ (List.mem_map_of_mem member))
  exact (LogHasher.paired_of_climb_pathFrom _
    (distinct_of_collisionFree free hashed) within
    (fun pair member => List.mem_append_left _ member)
    (fun pair member => List.mem_append_right _ member) genuine root).2

/-! A log of three entries. Its last leaf has no neighbour. -/

def sampleEntry (number : UInt8) : LogEntry where
  index := number.toUInt64
  messageId := Vector.replicate 32 number
  fromStatus := ""
  toStatus := "queued"
  timestamp := 1000 + number.toUInt64

def sampleEntries : List LogEntry :=
  [sampleEntry 0, sampleEntry 1, sampleEntry 2]

def digestOf (value : Nat) : Bytes32 :=
  Vector.ofFn fun position => (value / 256 ^ (31 - position.val)).toUInt8

/-- The values of SHA-256 at every message that is hashed for the sample. -/
def sampleSha256 (message : Bytes) : Bytes32 :=
  let leaf0 := digestOf
    0xa366e40769318c11994dcafb2dd00758dc75cc98e017a909c893ea948b86562a
  let leaf1 := digestOf
    0xff70542e3d95687c9f87940085bd305466f635cb08505e847913a34ee36839aa
  let leaf2 := digestOf
    0x3c7b378ffe7335a03dd4bf7c165499087674d7bf2919f50c2d62819b219bda07
  let node01 := digestOf
    0xf66019fd7ab56cf14949dabb1c01be7c69c718b572d83c0234364e775c95dd5b
  let climbed := digestOf
    0xaed4c565c295c17bc7a41163fee52c7897da87f391c99ed9ebcf4f9bdd36361e
  if message = leafMessage (sampleEntry 0) then leaf0
  else if message = leafMessage (sampleEntry 1) then leaf1
  else if message = leafMessage (sampleEntry 2) then leaf2
  else if message = nodeMessage leaf0 leaf1 then node01
  else if message = nodeMessage node01 leaf2 then digestOf
    0xc6e46ac0e5d5309d3aafbb8155e5c4acce025350fe6d5c78efb08c692d69787d
  else if message = nodeMessage leaf2 (Vector.replicate 32 0) then climbed
  else if message = nodeMessage node01 climbed then digestOf
    0x826b805dc0a993a505105c52b96a0a46edd46945143ec79736f020fefd7308f2
  else Vector.replicate 32 0

/-- The proof for the last of three leaves is rejected. -/
theorem inclusionProof_incomplete :
    2 < (fromEntries (LogHasher.ofSha256 sampleSha256) sampleEntries).len ∧
      ¬ ProvesInclusion (LogHasher.ofSha256 sampleSha256)
        (fromEntries (LogHasher.ofSha256 sampleSha256) sampleEntries) 2 := by
  decide +kernel

theorem collisionFree_sample :
    CollisionFree sampleSha256 (hashedMessages sampleSha256
      (fromEntries (LogHasher.ofSha256 sampleSha256) sampleEntries) 2) where
  injective := by decide +kernel
  nonzero := by decide +kernel

/-- Of three leaves the first is proved and the last is not. -/
theorem inclusionProof_complete_iff_sample :
    ProvesInclusion (LogHasher.ofSha256 sampleSha256)
        (fromEntries (LogHasher.ofSha256 sampleSha256) sampleEntries) 0 ∧
      ¬ ProvesInclusion (LogHasher.ofSha256 sampleSha256)
        (fromEntries (LogHasher.ofSha256 sampleSha256) sampleEntries) 2 := by
  constructor
  · have above : HashTree.PairedToRoot 2 0 :=
      (HashTree.pairedToRoot_step (by decide) 0).mpr
        ⟨by decide, HashTree.pairedToRoot_of_le_one (by decide) 0⟩
    have paired : HashTree.PairedToRoot 3 0 :=
      (HashTree.pairedToRoot_step (by decide) 0).mpr ⟨by decide, above⟩
    exact (inclusionProof_complete_iff sampleSha256 sampleEntries 0
      (by decide +kernel)).1 paired
  · intro proves
    have paired := (inclusionProof_complete_iff sampleSha256 sampleEntries 2
      (by decide +kernel)).2 collisionFree_sample proves
    have first := paired 0 (by decide +kernel) (by decide)
    exact absurd first (by decide +kernel)

end TransparencyLog

end StellarConduit
