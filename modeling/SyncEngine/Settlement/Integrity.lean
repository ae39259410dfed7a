import SyncEngine.Settlement.RootBinding

namespace StellarConduit

open Data

/-! What a leaf commits to. The two statuses are written without a length
between them, so only their concatenation is hashed. -/

/-- The entries differ in nothing but the place where one status ends and the
next one starts. -/
structure LogEntry.TextMoved (entry rewritten : LogEntry) : Prop where
  index : entry.index = rewritten.index
  messageId : entry.messageId = rewritten.messageId
  timestamp : entry.timestamp = rewritten.timestamp
  joined : entry.fromStatus ++ entry.toStatus =
    rewritten.fromStatus ++ rewritten.toStatus
  moved : entry.fromStatus ≠ rewritten.fromStatus

namespace LogEntry

theorem toHashBytes_eq_iff (entry rewritten : LogEntry) :
    entry.toHashBytes = rewritten.toHashBytes ↔
      entry.index = rewritten.index ∧
      entry.messageId = rewritten.messageId ∧
      entry.fromStatus ++ entry.toStatus =
        rewritten.fromStatus ++ rewritten.toStatus ∧
      entry.timestamp = rewritten.timestamp := by
  constructor
  · intro same
    simp only [toHashBytes, List.append_assoc] at same
    obtain ⟨indices, same⟩ := List.append_inj same (by simp)
    obtain ⟨ids, same⟩ := List.append_inj same (by simp [Bytes32.toVec])
    rw [← List.append_assoc, ← List.append_assoc] at same
    obtain ⟨texts, timestamps⟩ := List.append_inj' same (by simp)
    rw [← ByteLayout.utf8_append, ← ByteLayout.utf8_append] at texts
    exact ⟨toLeBytes_injective indices, Bytes32.toVec_injective ids,
      ByteLayout.utf8_injective texts, toLeBytes_injective timestamps⟩
  · rintro ⟨index, messageId, joined, timestamp⟩
    have texts := ByteLayout.utf8_of_joined joined
    simp only [toHashBytes, List.append_assoc, index, messageId, timestamp]
    rw [← List.append_assoc entry.fromStatus.toUTF8.toList, texts,
      List.append_assoc]

theorem TextMoved.ne {entry rewritten : LogEntry}
    (moved : entry.TextMoved rewritten) : entry ≠ rewritten :=
  fun same => moved.moved (congrArg LogEntry.fromStatus same)

theorem TextMoved.toHashBytes_eq {entry rewritten : LogEntry}
    (moved : entry.TextMoved rewritten) :
    entry.toHashBytes = rewritten.toHashBytes :=
  (toHashBytes_eq_iff entry rewritten).mpr
    ⟨moved.index, moved.messageId, moved.joined, moved.timestamp⟩

/-- Equal bytes leave two entries equal or differing in the split alone. -/
theorem eq_or_textMoved {entry rewritten : LogEntry}
    (same : entry.toHashBytes = rewritten.toHashBytes) :
    entry = rewritten ∨ entry.TextMoved rewritten := by
  obtain ⟨index, messageId, joined, timestamp⟩ :=
    (toHashBytes_eq_iff entry rewritten).mp same
  by_cases kept : entry.fromStatus = rewritten.fromStatus
  · left
    have texts := ByteLayout.utf8_of_joined joined
    rw [kept] at texts
    have toStatus :=
      ByteLayout.utf8_injective (List.append_cancel_left texts)
    cases entry
    cases rewritten
    simp_all
  · exact Or.inr ⟨index, messageId, timestamp, joined, kept⟩

end LogEntry

/-! The stored log, with fields that anything may have been written to. -/

structure StoredLog (Digest : Type) where
  entries : List LogEntry
  leaves : List Digest
  root : Digest

def TransparencyLog.stored {Digest : Type} (log : TransparencyLog Digest) :
    StoredLog Digest :=
  ⟨log.entries, log.leaves, log.root⟩

namespace StoredLog

variable {Digest : Type} [DecidableEq Digest] (hasher : LogHasher Digest)

def verifyRoot (log : StoredLog Digest) : Bool :=
  rootFromLevels (hasher.buildTreeLevels log.leaves) = log.root

/-- The iteration ends with the shorter of the two vectors. -/
def verifyEntries (log : StoredLog Digest) : Bool :=
  (log.entries.zip log.leaves).all fun (entry, expected) =>
    hasher.leafHash entry = expected

def verifyIntegrity (log : StoredLog Digest) : Bool :=
  log.verifyRoot hasher && log.verifyEntries hasher

/-- The leaves are those of the entries, and the root is that of the tree
over them. -/
structure Intact (log : StoredLog Digest) : Prop where
  hashed : log.leaves = log.entries.map hasher.leafHash
  rooted : log.root = hasher.treeRoot log.leaves

/-- What the iteration over both vectors does not see: one of them goes on
where the other ends. -/
structure Overhangs (log : StoredLog Digest) : Prop where
  rooted : log.root = hasher.treeRoot log.leaves
  unequal : log.leaves.length ≠ log.entries.length
  agreed : log.leaves <+: log.entries.map hasher.leafHash ∨
    log.entries.map hasher.leafHash <+: log.leaves

variable {hasher} {log : StoredLog Digest}

theorem verifyRoot_eq_true :
    log.verifyRoot hasher = true ↔
      log.root = hasher.treeRoot log.leaves := by
  rw [verifyRoot, decide_eq_true_eq, hasher.rootFromLevels_eq_treeRoot]
  exact eq_comm

theorem zip_leafHash_eq_true (entries : List LogEntry)
    (leaves : List Digest) :
    ((entries.zip leaves).all fun (entry, expected) =>
        hasher.leafHash entry = expected) = true ↔
      leaves <+: entries.map hasher.leafHash ∨
        entries.map hasher.leafHash <+: leaves := by
  induction entries generalizing leaves with
  | nil => simp
  | cons entry entries induction =>
      cases leaves with
      | nil => simp
      | cons leaf leaves =>
          simp only [List.zip_cons_cons, List.all_cons, List.map_cons,
            Bool.and_eq_true, decide_eq_true_eq, induction,
            List.cons_prefix_cons]
          constructor
          · rintro ⟨rfl, shorter | longer⟩
            · exact Or.inl ⟨rfl, shorter⟩
            · exact Or.inr ⟨rfl, longer⟩
          · rintro (⟨rfl, shorter⟩ | ⟨rfl, longer⟩)
            · exact ⟨rfl, Or.inl shorter⟩
            · exact ⟨rfl, Or.inr longer⟩

theorem verifyIntegrity_eq_true :
    log.verifyIntegrity hasher = true ↔
      log.root = hasher.treeRoot log.leaves ∧
        (log.leaves <+: log.entries.map hasher.leafHash ∨
          log.entries.map hasher.leafHash <+: log.leaves) := by
  rw [verifyIntegrity, Bool.and_eq_true, verifyRoot_eq_true, verifyEntries,
    zip_leafHash_eq_true]

theorem Intact.verifyIntegrity (intact : log.Intact hasher) :
    log.verifyIntegrity hasher = true :=
  verifyIntegrity_eq_true.mpr
    ⟨intact.rooted, Or.inl (intact.hashed ▸ List.prefix_rfl)⟩

theorem Overhangs.verifyIntegrity (overhangs : log.Overhangs hasher) :
    log.verifyIntegrity hasher = true :=
  verifyIntegrity_eq_true.mpr ⟨overhangs.rooted, overhangs.agreed⟩

omit [DecidableEq Digest] in
theorem Overhangs.not_intact (overhangs : log.Overhangs hasher) :
    ¬ log.Intact hasher := by
  intro intact
  apply overhangs.unequal
  rw [intact.hashed, List.length_map]

/-- The check passes on nothing else. -/
theorem intact_or_overhangs (passed : log.verifyIntegrity hasher = true) :
    log.Intact hasher ∨ log.Overhangs hasher := by
  obtain ⟨rooted, agreed⟩ := verifyIntegrity_eq_true.mp passed
  by_cases level : log.leaves.length = log.entries.length
  · left
    refine ⟨?_, rooted⟩
    rcases agreed with shorter | longer
    · exact shorter.eq_of_length (by rw [List.length_map, level])
    · exact (longer.eq_of_length (by rw [List.length_map, level])).symm
  · exact Or.inr ⟨rooted, level, agreed⟩

omit [DecidableEq Digest] in
theorem intact_of_built {built : TransparencyLog Digest}
    (isBuilt : TransparencyLog.Built hasher built) :
    built.stored.Intact hasher where
  hashed := isBuilt.leaves
  rooted := by
    rw [← hasher.rootFromLevels_eq_treeRoot]
    exact isBuilt.root

/-- Cutting entries off the end of a log, or writing more of them after it,
goes unnoticed. -/
theorem verifyIntegrity_of_tail (intact : log.Intact hasher)
    (kept : List LogEntry)
    (tail : kept <+: log.entries ∨ log.entries <+: kept) :
    ({ log with entries := kept } : StoredLog Digest).verifyIntegrity hasher =
      true := by
  apply verifyIntegrity_eq_true.mpr
  refine ⟨intact.rooted, ?_⟩
  simp only [intact.hashed]
  rcases tail with cut | extended
  · exact Or.inr (cut.map hasher.leafHash)
  · exact Or.inl (extended.map hasher.leafHash)

/-- The check is exact on every stored log but those where one vector is a
proper beginning of the other. -/
theorem verifyIntegrity_exact_iff (hasher : LogHasher Digest)
    (log : StoredLog Digest) :
    (log.verifyIntegrity hasher = true ↔ log.Intact hasher) ↔
      ¬ log.Overhangs hasher := by
  constructor
  · intro exact overhangs
    exact overhangs.not_intact (exact.mp overhangs.verifyIntegrity)
  · intro level
    constructor
    · intro passed
      exact (intact_or_overhangs passed).resolve_right level
    · exact Intact.verifyIntegrity

/-- A log of one entry, after the entry is removed. -/
theorem removed_entry_passes :
    let built := TransparencyLog.fromEntries LogHasher.symbolic
      [TransparencyLog.sampleEntry 0]
    let log : StoredLog SymbolicDigest := { built.stored with entries := [] }
    log.verifyIntegrity LogHasher.symbolic = true ∧
      ¬ log.Intact LogHasher.symbolic := by
  intro built log
  refine ⟨by decide +kernel, ?_⟩
  intro intact
  exact absurd intact.hashed (by decide +kernel)

/-! Rewriting one entry of an intact log. -/

theorem verifyIntegrity_rewritten (intact : log.Intact hasher)
    {position : Nat} {entry rewritten : LogEntry}
    (present : log.entries[position]? = some entry) :
    ({ log with entries := log.entries.set position rewritten } :
        StoredLog Digest).verifyIntegrity hasher = true ↔
      hasher.leafHash rewritten = hasher.leafHash entry := by
  obtain ⟨inside, found⟩ := List.getElem?_eq_some_iff.mp present
  rw [verifyIntegrity_eq_true]
  simp only [intact.hashed, List.map_set]
  constructor
  · rintro ⟨-, agreed⟩
    have same : (log.entries.map hasher.leafHash).set position
        (hasher.leafHash rewritten) = log.entries.map hasher.leafHash := by
      rcases agreed with shorter | longer
      · exact (shorter.eq_of_length (by simp)).symm
      · exact longer.eq_of_length (by simp)
    have leaf := congrArg (fun leaves => leaves[position]?) same
    simpa [inside, found] using leaf
  · intro same
    have kept : (log.entries.map hasher.leafHash).set position
        (hasher.leafHash rewritten) = log.entries.map hasher.leafHash := by
      rw [same, ← found, ← List.getElem_map hasher.leafHash]
      exact List.set_getElem_self (by simpa using inside)
    rw [kept]
    exact ⟨by rw [intact.rooted, intact.hashed], Or.inl List.prefix_rfl⟩

end StoredLog

namespace LogEntry

/-- The bytes of an entry determine it, and an intact log that has it
anywhere shows when it is rewritten. -/
structure CommitsAgainst (sha256 : Bytes → Bytes32)
    (entry rewritten : LogEntry) : Prop where
  bytes : entry.toHashBytes = rewritten.toHashBytes → entry = rewritten
  leaf : entry ≠ rewritten →
    (LogHasher.ofSha256 sha256).leafHash rewritten ≠
      (LogHasher.ofSha256 sha256).leafHash entry
  detected : entry ≠ rewritten →
    ∀ (log : StoredLog Bytes32) (position : Nat),
      log.Intact (LogHasher.ofSha256 sha256) →
      log.entries[position]? = some entry →
      ({ log with entries := log.entries.set position rewritten } :
          StoredLog Bytes32).verifyIntegrity (LogHasher.ofSha256 sha256) =
        false

/-- Where the hash does not collide, every rewriting is committed against
but one that moves text between the two statuses. -/
theorem commitsAgainst_iff (sha256 : Bytes → Bytes32)
    (entry rewritten : LogEntry)
    (injective : sha256 (leafMessage rewritten) =
        sha256 (leafMessage entry) →
      leafMessage rewritten = leafMessage entry) :
    entry.CommitsAgainst sha256 rewritten ↔
      ¬ entry.TextMoved rewritten := by
  constructor
  · intro commits moved
    exact moved.ne (commits.bytes moved.toHashBytes_eq)
  · intro fixed
    have bytes : entry.toHashBytes = rewritten.toHashBytes →
        entry = rewritten :=
      fun same => (eq_or_textMoved same).resolve_right fixed
    have leaf : entry ≠ rewritten →
        (LogHasher.ofSha256 sha256).leafHash rewritten ≠
          (LogHasher.ofSha256 sha256).leafHash entry := by
      intro differ collides
      have same := injective collides
      rw [leafMessage, leafMessage] at same
      exact differ (bytes (List.append_cancel_left same).symm)
    refine ⟨bytes, leaf, ?_⟩
    intro differ log position intact present
    rw [← Bool.not_eq_true, StoredLog.verifyIntegrity_rewritten intact present]
    exact leaf differ

/-- The first transition of a message, and its status taken back. -/
theorem textMoved_sample :
    let entry : LogEntry := ⟨0, Vector.replicate 32 1, "", "queued", 1000⟩
    let rewritten : LogEntry :=
      ⟨0, Vector.replicate 32 1, "queued", "", 1000⟩
    entry.toHashBytes = rewritten.toHashBytes ∧ entry ≠ rewritten := by
  decide +kernel

theorem commitsAgainst_iff_sample :
    (TransparencyLog.sampleEntry 0).CommitsAgainst
      TransparencyLog.sampleSha256 (TransparencyLog.sampleEntry 1) := by
  apply (commitsAgainst_iff TransparencyLog.sampleSha256
    (TransparencyLog.sampleEntry 0) (TransparencyLog.sampleEntry 1) ?_).mpr
  · intro moved
    exact absurd moved.index (by decide)
  · intro collides
    exact absurd collides (by decide +kernel)

end LogEntry

end StellarConduit
