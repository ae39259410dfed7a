import SyncEngine.Storage.Store

namespace StellarConduit

open Data

/-! The rows of a snapshot, which mirror the columns of the tables. -/

/-- `DB_SNAPSHOT_SCHEMA_VERSION` -/
def dbSnapshotSchemaVersion : UInt32 := 1

structure QueuedEnvelopeRow where
  messageId : Bytes
  sourceAccount : String
  sequence : Int64
  priority : Int64
  enqueuedAt : Int64
  envelopeBytes : Bytes
  deriving DecidableEq

structure SettlementStatusRow where
  messageId : Bytes
  status : String
  updatedAt : Int64
  deriving DecidableEq

structure SequenceReservationRow where
  sourceAccount : String
  lastReserved : Int64
  deriving DecidableEq

structure DbSnapshot where
  schemaVersion : UInt32
  queuedEnvelopes : List QueuedEnvelopeRow
  settlementStatus : List SettlementStatusRow
  sequenceReservations : List SequenceReservationRow
  conflicts : List ConflictRow
  settlementHistory : List SettlementHistoryRow
  disputeEscalations : List DisputeEscalationRow
  deriving DecidableEq

structure ImportReport where
  queuedEnvelopesImported : Nat
  settlementStatusImported : Nat
  sequenceReservationsImported : Nat
  conflictsImported : Nat
  settlementHistoryImported : Nat
  disputeEscalationsImported : Nat
  deriving DecidableEq

def QueuedEnvelopeRow.select
    (entry : Sigma fun _ : Bytes => QueuedEnvelopeColumns) :
    QueuedEnvelopeRow where
  messageId := entry.1
  sourceAccount := entry.2.sourceAccount
  sequence := entry.2.sequence
  priority := entry.2.priority
  enqueuedAt := entry.2.enqueuedAt
  envelopeBytes := entry.2.envelopeBytes

def QueuedEnvelopeRow.values (row : QueuedEnvelopeRow) :
    Sigma fun _ : Bytes => QueuedEnvelopeColumns :=
  ⟨row.messageId, {
    sourceAccount := row.sourceAccount
    sequence := row.sequence
    priority := row.priority
    enqueuedAt := row.enqueuedAt
    envelopeBytes := row.envelopeBytes }⟩

def SettlementStatusRow.select
    (entry : Sigma fun _ : Bytes => SettlementStatusColumns) :
    SettlementStatusRow where
  messageId := entry.1
  status := entry.2.status
  updatedAt := entry.2.updatedAt

def SettlementStatusRow.values (row : SettlementStatusRow) :
    Sigma fun _ : Bytes => SettlementStatusColumns :=
  ⟨row.messageId, { status := row.status, updatedAt := row.updatedAt }⟩

def SequenceReservationRow.select (entry : Sigma fun _ : String => Int64) :
    SequenceReservationRow where
  sourceAccount := entry.1
  lastReserved := entry.2

def SequenceReservationRow.values (row : SequenceReservationRow) :
    Sigma fun _ : String => Int64 :=
  ⟨row.sourceAccount, row.lastReserved⟩

/-- One order in which the statements of `export_snapshot` may find the rows
of each table. -/
structure TableScans where
  queuedEnvelopes : HashMap.Listing Bytes QueuedEnvelopeColumns
  settlementStatus : HashMap.Listing Bytes SettlementStatusColumns
  sequenceReservations : HashMap.Listing String Int64
  conflicts : List ConflictRow
  settlementHistory : List SettlementHistoryRow
  disputeEscalations : List DisputeEscalationRow

structure TableScans.Enumerate (scans : TableScans) (store : StoreDb) :
    Prop where
  queuedEnvelopes :
    scans.queuedEnvelopes.toFinmap = store.db.queuedEnvelopes
  settlementStatus :
    scans.settlementStatus.toFinmap = store.db.settlementStatus
  sequenceReservations :
    scans.sequenceReservations.toFinmap = store.db.sequenceReservations
  conflicts : scans.conflicts.Perm store.conflicts
  settlementHistory :
    scans.settlementHistory.Perm store.db.settlementHistory
  disputeEscalations :
    scans.disputeEscalations.Perm store.disputeEscalations

def TableScans.snapshot (scans : TableScans) : DbSnapshot where
  schemaVersion := dbSnapshotSchemaVersion
  queuedEnvelopes :=
    scans.queuedEnvelopes.entries.map QueuedEnvelopeRow.select
  settlementStatus :=
    scans.settlementStatus.entries.map SettlementStatusRow.select
  sequenceReservations :=
    scans.sequenceReservations.entries.map SequenceReservationRow.select
  conflicts := scans.conflicts
  settlementHistory := scans.settlementHistory
  disputeEscalations := scans.disputeEscalations

namespace StoreDb

/-- Nothing is decrypted on the way. -/
def exportSnapshot (serde : RmpSerde DbSnapshot) (read : Read)
    (scans : TableScans) : Except SyncEngineError Bytes :=
  match read with
  | .refused => .error .connectionError
  | .served => serde.toVec scans.snapshot

/-- `existing_rows` -/
def existingRows (store : StoreDb) : Nat :=
  HashMap.rowCount store.db.queuedEnvelopes +
    HashMap.rowCount store.db.settlementStatus +
    HashMap.rowCount store.db.sequenceReservations +
    store.conflicts.length +
    store.db.settlementHistory.length +
    store.disputeEscalations.length

/-- The inserts of `import_snapshot`, of which any may clash with a primary
key. -/
def insertSnapshot (snapshot : DbSnapshot) (store : StoreDb) :
    Except SyncEngineError StoreDb := do
  let queuedEnvelopes ←
    (snapshot.queuedEnvelopes.map QueuedEnvelopeRow.values).foldlM
      (HashMap.insertNew .connectionError) store.db.queuedEnvelopes
  let settlementStatus ←
    (snapshot.settlementStatus.map SettlementStatusRow.values).foldlM
      (HashMap.insertNew .connectionError) store.db.settlementStatus
  let sequenceReservations ←
    (snapshot.sequenceReservations.map SequenceReservationRow.values).foldlM
      (HashMap.insertNew .connectionError) store.db.sequenceReservations
  let conflicts ← snapshot.conflicts.foldlM
    (insertRow ConflictRow.id .connectionError) store.conflicts
  let settlementHistory ← snapshot.settlementHistory.foldlM
    (insertRow SettlementHistoryRow.id .connectionError)
    store.db.settlementHistory
  let disputeEscalations ← snapshot.disputeEscalations.foldlM
    (insertRow DisputeEscalationRow.id .connectionError)
    store.disputeEscalations
  return {
    db := {
      queuedEnvelopes := queuedEnvelopes
      settlementStatus := settlementStatus
      sequenceReservations := sequenceReservations
      settlementHistory := settlementHistory }
    disputeEscalations := disputeEscalations
    conflicts := conflicts }

/-- The transaction of `import_snapshot`, which is rolled back on any error. -/
def importStatements (snapshot : DbSnapshot) (store : StoreDb) :
    Except SyncEngineError StoreDb :=
  if store.existingRows ≠ 0 then .error .importTargetNotEmpty
  else store.insertSnapshot snapshot

end StoreDb

def DbSnapshot.report (snapshot : DbSnapshot) : ImportReport where
  queuedEnvelopesImported := snapshot.queuedEnvelopes.length
  settlementStatusImported := snapshot.settlementStatus.length
  sequenceReservationsImported := snapshot.sequenceReservations.length
  conflictsImported := snapshot.conflicts.length
  settlementHistoryImported := snapshot.settlementHistory.length
  disputeEscalationsImported := snapshot.disputeEscalations.length

namespace StoreDb

def importSnapshot (serde : RmpSerde DbSnapshot) (data : Bytes)
    (write : Write) (store : StoreDb) :
    Outcome StoreDb (Except SyncEngineError ImportReport) :=
  match serde.fromSlice data with
  | .error error => .returned store (.error error)
  | .ok snapshot =>
      if snapshot.schemaVersion ≠ dbSnapshotSchemaVersion then
        .returned store (.error (.incompatibleSnapshotSchemaVersion
          snapshot.schemaVersion dbSnapshotSchemaVersion))
      else
        (write.run .connectionError (importStatements snapshot)
          store).tryBind fun store _ => .returned store (.ok snapshot.report)

/-! What an import leaves. -/

/-- The same rows in every table of data. -/
structure SameRows (first second : StoreDb) : Prop where
  queuedEnvelopes : first.db.queuedEnvelopes = second.db.queuedEnvelopes
  settlementStatus : first.db.settlementStatus = second.db.settlementStatus
  sequenceReservations :
    first.db.sequenceReservations = second.db.sequenceReservations
  conflicts : first.conflicts.Perm second.conflicts
  settlementHistory :
    first.db.settlementHistory.Perm second.db.settlementHistory
  disputeEscalations :
    first.disputeEscalations.Perm second.disputeEscalations

def rowCounts (store : StoreDb) : ImportReport where
  queuedEnvelopesImported := HashMap.rowCount store.db.queuedEnvelopes
  settlementStatusImported := HashMap.rowCount store.db.settlementStatus
  sequenceReservationsImported :=
    HashMap.rowCount store.db.sequenceReservations
  conflictsImported := store.conflicts.length
  settlementHistoryImported := store.db.settlementHistory.length
  disputeEscalationsImported := store.disputeEscalations.length

theorem eq_empty_of_existingRows {store : StoreDb}
    (none : store.existingRows = 0) : store = empty := by
  obtain ⟨⟨⟨envelopes, statuses, reservations, history⟩, escalations⟩,
    conflicts⟩ := store
  simp only [existingRows, Nat.add_eq_zero_iff, List.length_eq_zero_iff]
    at none
  obtain ⟨⟨⟨⟨⟨envelopes, statuses⟩, reservations⟩, rfl⟩, rfl⟩, rfl⟩ := none
  rw [HashMap.eq_empty_of_rowCount envelopes,
    HashMap.eq_empty_of_rowCount statuses,
    HashMap.eq_empty_of_rowCount reservations]
  rfl

/-- The tables that the rows of a scan make up. -/
def restored (scans : TableScans) : StoreDb where
  db := {
    queuedEnvelopes := scans.queuedEnvelopes.toFinmap
    settlementStatus := scans.settlementStatus.toFinmap
    sequenceReservations := scans.sequenceReservations.toFinmap
    settlementHistory := scans.settlementHistory }
  disputeEscalations := scans.disputeEscalations
  conflicts := scans.conflicts

variable {scans : TableScans} {source : StoreDb}

theorem sameRows_restored (enumerate : scans.Enumerate source) :
    (restored scans).SameRows source where
  queuedEnvelopes := enumerate.queuedEnvelopes
  settlementStatus := enumerate.settlementStatus
  sequenceReservations := enumerate.sequenceReservations
  conflicts := enumerate.conflicts
  settlementHistory := enumerate.settlementHistory
  disputeEscalations := enumerate.disputeEscalations

theorem report_snapshot (enumerate : scans.Enumerate source) :
    scans.snapshot.report = source.rowCounts := by
  simp only [DbSnapshot.report, TableScans.snapshot, rowCounts,
    List.length_map, ← enumerate.queuedEnvelopes,
    ← enumerate.settlementStatus, ← enumerate.sequenceReservations,
    HashMap.rowCount_toFinmap, enumerate.conflicts.length_eq,
    enumerate.settlementHistory.length_eq,
    enumerate.disputeEscalations.length_eq]

theorem map_values_select (scans : TableScans) :
    scans.snapshot.queuedEnvelopes.map QueuedEnvelopeRow.values =
        scans.queuedEnvelopes.entries ∧
      scans.snapshot.settlementStatus.map SettlementStatusRow.values =
        scans.settlementStatus.entries ∧
      scans.snapshot.sequenceReservations.map SequenceReservationRow.values =
        scans.sequenceReservations.entries := by
  simp only [TableScans.snapshot, List.map_map]
  exact ⟨List.map_id _, List.map_id _, List.map_id _⟩

/-- No row of a scan of a keyed database clashes with another one. -/
theorem insertSnapshot_empty (keyed : source.Keyed)
    (enumerate : scans.Enumerate source) :
    empty.insertSnapshot scans.snapshot = .ok (restored scans) := by
  obtain ⟨envelopes, statuses, reservations⟩ := map_values_select scans
  have conflicts : scans.conflicts.foldlM
      (insertRow ConflictRow.id SyncEngineError.connectionError) [] =
      .ok scans.conflicts :=
    foldlM_insertRow
      ((enumerate.conflicts.map _).nodup_iff.mpr keyed.conflicts)
  have history : scans.settlementHistory.foldlM
      (insertRow SettlementHistoryRow.id SyncEngineError.connectionError) [] =
      .ok scans.settlementHistory :=
    foldlM_insertRow
      ((enumerate.settlementHistory.map _).nodup_iff.mpr
        keyed.settlementHistory)
  have escalations : scans.disputeEscalations.foldlM
      (insertRow DisputeEscalationRow.id SyncEngineError.connectionError) [] =
      .ok scans.disputeEscalations :=
    foldlM_insertRow
      ((enumerate.disputeEscalations.map _).nodup_iff.mpr
        keyed.disputeEscalations)
  unfold insertSnapshot
  rw [envelopes, statuses, reservations]
  simp only [empty, Database.empty, HashMap.foldlM_insertNew_listing,
    TableScans.snapshot, conflicts, history, escalations, bind, Except.bind]
  rfl

theorem Keyed.insertSnapshot {store after : StoreDb} (keyed : store.Keyed)
    {snapshot : DbSnapshot}
    (inserted : store.insertSnapshot snapshot = .ok after) : after.Keyed := by
  obtain ⟨_, -, inserted⟩ := exists_of_bind_ok inserted
  obtain ⟨_, -, inserted⟩ := exists_of_bind_ok inserted
  obtain ⟨_, -, inserted⟩ := exists_of_bind_ok inserted
  obtain ⟨_, conflicts, inserted⟩ := exists_of_bind_ok inserted
  obtain ⟨_, history, inserted⟩ := exists_of_bind_ok inserted
  obtain ⟨_, escalations, inserted⟩ := exists_of_bind_ok inserted
  obtain rfl := Except.ok.inj inserted
  exact ⟨distinctIds_of_foldlM keyed.settlementHistory history,
    distinctIds_of_foldlM keyed.disputeEscalations escalations,
    distinctIds_of_foldlM keyed.conflicts conflicts⟩

variable {serde : RmpSerde DbSnapshot} {data : Bytes} {write : Write}
  {store after : StoreDb}

/-- How an import can end: an error and a crash before its transaction has
taken effect change nothing. -/
theorem importSnapshot_cases (serde : RmpSerde DbSnapshot) (data : Bytes)
    (write : Write) (store : StoreDb) :
    (∃ error, store.importSnapshot serde data write =
      .returned store (.error error)) ∨
    store.importSnapshot serde data write = .crashed store ∨
    ∃ snapshot after, serde.fromSlice data = .ok snapshot ∧
      store.existingRows = 0 ∧ store.insertSnapshot snapshot = .ok after ∧
      (store.importSnapshot serde data write =
          .returned after (.ok snapshot.report) ∨
        store.importSnapshot serde data write = .crashed after) := by
  unfold importSnapshot
  cases serde.fromSlice data with
  | error error => exact Or.inl ⟨error, rfl⟩
  | ok snapshot =>
      dsimp only
      split
      · exact Or.inl ⟨_, rfl⟩
      · rcases write.run_cases SyncEngineError.connectionError
          (importStatements snapshot) store with
          ⟨error, failed⟩ | lost | ⟨after, made, ended⟩
        · rw [failed]
          exact Or.inl ⟨error, rfl⟩
        · rw [lost]
          exact Or.inr (Or.inl rfl)
        · right
          right
          unfold importStatements at made
          split at made
          · cases made
          · rename_i vacant
            refine ⟨snapshot, after, rfl, not_not.mp vacant, made, ?_⟩
            rcases ended with committed | lost
            · rw [committed]
              exact Or.inl rfl
            · rw [lost]
              exact Or.inr rfl

theorem Keyed.importSnapshot (keyed : store.Keyed)
    (serde : RmpSerde DbSnapshot) (data : Bytes) (write : Write) :
    (store.importSnapshot serde data write).durable.Keyed := by
  rcases importSnapshot_cases serde data write store with
    ⟨error, failed⟩ | lost | ⟨snapshot, after, -, -, inserted, ended⟩
  · rw [failed]
    exact keyed
  · rw [lost]
    exact keyed
  · rcases ended with committed | lost
    · rw [committed]
      exact keyed.insertSnapshot inserted
    · rw [lost]
      exact keyed.insertSnapshot inserted

/-- What was exported goes into an empty database. -/
theorem importSnapshot_exportSnapshot (keyed : source.Keyed)
    (enumerate : scans.Enumerate source) {read : Read} {target : StoreDb}
    (exported : exportSnapshot serde read scans = .ok data)
    (vacant : target.existingRows = 0) :
    target.importSnapshot serde data .applied =
      .returned (restored scans) (.ok source.rowCounts) := by
  have encoded : serde.toVec scans.snapshot = .ok data := by
    cases read with
    | served => exact exported
    | refused => cases exported
  obtain rfl := eq_empty_of_existingRows vacant
  have inserted : importStatements scans.snapshot empty =
      .ok (restored scans) := by
    rw [importStatements, if_neg (not_not.mpr vacant),
      insertSnapshot_empty keyed enumerate]
  have version : ¬scans.snapshot.schemaVersion ≠ dbSnapshotSchemaVersion :=
    not_not.mpr rfl
  unfold importSnapshot
  rw [serde.fromSlice_toVec _ _ encoded]
  simp only [if_neg version, Write.run, inserted, Outcome.tryBind_ok,
    report_snapshot enumerate]

end StoreDb

/-! Databases that are written to and restored. -/

inductive DeviceCall (RelayChainProof : Type)
  | call (label : StoreLabel RelayChainProof)
  | importSnapshot (data : Bytes) (write : Write)

def DeviceCall.perform {RelayChainProof : Type} (cipher : Aes256Gcm)
    (crates : Crates)
    (encode : RelayChainProof → Except SyncEngineError Bytes)
    (serde : RmpSerde DbSnapshot) (store : StoreDb) :
    DeviceCall RelayChainProof → StoreDb
  | .call label => label.perform cipher crates encode store
  | .importSnapshot data write =>
      (store.importSnapshot serde data write).durable

def devices {RelayChainProof : Type} (cipher : Aes256Gcm) (crates : Crates)
    (encode : RelayChainProof → Except SyncEngineError Bytes)
    (serde : RmpSerde DbSnapshot) :
    System StoreDb (DeviceCall RelayChainProof) where
  init store := store = .empty
  step store call next :=
    next = call.perform cipher crates encode serde store

theorem keyed_of_run {RelayChainProof : Type} {cipher : Aes256Gcm}
    {crates : Crates}
    {encode : RelayChainProof → Except SyncEngineError Bytes}
    {serde : RmpSerde DbSnapshot} {trace : List (DeviceCall RelayChainProof)}
    {store : StoreDb}
    (run : (devices cipher crates encode serde).Run trace store) :
    store.Keyed := by
  apply run.invariant fun _ store => store.Keyed
  · rintro _ rfl
    exact StoreDb.keyed_empty
  · rintro _ before call _ - keyed - rfl
    cases call with
    | call label => exact keyed.perform label.call
    | importSnapshot data write =>
        exact keyed.importSnapshot serde data write

/-- A snapshot of any database that has been reached goes into any empty one,
row for row, and an import that fails has changed nothing. -/
theorem snapshot_roundtrip {RelayChainProof : Type} (cipher : Aes256Gcm)
    (crates : Crates)
    (encode : RelayChainProof → Except SyncEngineError Bytes)
    (serde : RmpSerde DbSnapshot) :
    (∀ (trace : List (DeviceCall RelayChainProof)) (source target : StoreDb)
        (scans : TableScans) (read : Read) (data : Bytes),
      (devices cipher crates encode serde).Run trace source →
      scans.Enumerate source →
      StoreDb.exportSnapshot serde read scans = .ok data →
      target.existingRows = 0 →
      ∃ after, target.importSnapshot serde data .applied =
          .returned after (.ok source.rowCounts) ∧
        after.SameRows source) ∧
    ∀ (data : Bytes) (write : Write) (target after : StoreDb)
        (error : SyncEngineError),
      target.importSnapshot serde data write =
        .returned after (.error error) → after = target := by
  constructor
  · intro trace source target scans read data run enumerate exported vacant
    exact ⟨StoreDb.restored scans,
      StoreDb.importSnapshot_exportSnapshot (keyed_of_run run) enumerate
        exported vacant,
      StoreDb.sameRows_restored enumerate⟩
  · intro data write target after error failed
    rcases StoreDb.importSnapshot_cases serde data write target with
      ⟨other, unchanged⟩ | lost | ⟨snapshot, made, -, -, -, ended⟩
    · exact (Outcome.returned.inj (unchanged.symm.trans failed)).1.symm
    · cases lost.symm.trans failed
    · rcases ended with committed | lost
      · cases committed.symm.trans failed
      · cases lost.symm.trans failed

/-! A database with an envelope and a conflict. -/

def snapshotConflict : ConflictRow :=
  ⟨1, "GA", 7, EscalationDb.sampleConflict.envelopeA.toVec,
    EscalationDb.sampleConflict.envelopeB.toVec, 8, 0⟩

def snapshotScans : TableScans where
  queuedEnvelopes := sessionScan sessionCiphertext
  settlementStatus :=
    ⟨[⟨sessionEnvelope.messageId.toVec, ⟨"queued", 7⟩⟩],
      List.nodupKeys_singleton _⟩
  sequenceReservations := ⟨[⟨"GA", 1⟩], List.nodupKeys_singleton _⟩
  conflicts := [snapshotConflict]
  settlementHistory := []
  disputeEscalations := []

def snapshotCalls : List (DeviceCall Bytes) :=
  [.call storeEnvelope, .call ⟨none, sessionNonce,
    .recordConflict EscalationDb.sampleConflict 8 .applied⟩]

def snapshotSource : StoreDb :=
  snapshotCalls.foldl (DeviceCall.perform sampleCipher sessionCrates .ok
    (RmpSerde.only snapshotScans.snapshot)) .empty

theorem snapshotScans_enumerate : snapshotScans.Enumerate snapshotSource where
  queuedEnvelopes := by decide +kernel
  settlementStatus := by decide +kernel
  sequenceReservations := by decide +kernel
  conflicts := List.Perm.of_eq (by decide +kernel)
  settlementHistory := List.Perm.of_eq (by decide +kernel)
  disputeEscalations := List.Perm.of_eq (by decide +kernel)

theorem snapshot_roundtrip_sample :
    ∃ after,
      StoreDb.empty.importSnapshot (RmpSerde.only snapshotScans.snapshot) [1]
          .applied =
        .returned after (.ok snapshotSource.rowCounts) ∧
      after.SameRows snapshotSource := by
  have started : (devices sampleCipher sessionCrates Except.ok
      (RmpSerde.only snapshotScans.snapshot)).Run [] .empty := .start rfl
  have stored := started.snoc (l := .call storeEnvelope) rfl trivial
  have recorded := stored.snoc (l := .call ⟨none, sessionNonce,
    .recordConflict EscalationDb.sampleConflict 8 .applied⟩) rfl trivial
  exact (snapshot_roundtrip sampleCipher sessionCrates Except.ok _).1 _
    snapshotSource .empty snapshotScans .served [1] recorded
    snapshotScans_enumerate (by decide +kernel) rfl

end StellarConduit
