import SyncEngine.Engine
import SyncEngine.Storage.Snapshot

namespace StellarConduit

open Data

/-! Which snapshots an import accepts, and which the readers can load. -/

/-- No two rows of a table have one primary key. -/
structure DbSnapshot.Keyed (snapshot : DbSnapshot) : Prop where
  queuedEnvelopes :
    (snapshot.queuedEnvelopes.map QueuedEnvelopeRow.values).NodupKeys
  settlementStatus :
    (snapshot.settlementStatus.map SettlementStatusRow.values).NodupKeys
  sequenceReservations :
    (snapshot.sequenceReservations.map
      SequenceReservationRow.values).NodupKeys
  conflicts : DistinctIds ConflictRow.id snapshot.conflicts
  settlementHistory :
    DistinctIds SettlementHistoryRow.id snapshot.settlementHistory
  disputeEscalations :
    DistinctIds DisputeEscalationRow.id snapshot.disputeEscalations

/-- The priority is known and the bytes are those of the envelope that the row
is stored under. -/
structure QueuedEnvelopeRow.WellFormed (crates : Crates)
    (row : QueuedEnvelopeRow) : Prop where
  priority : ∃ priority, TxPriority.tryFromI64 row.priority = .ok priority
  envelope : ∃ envelope,
    crates.rmpSerde.fromSlice row.envelopeBytes = .ok envelope ∧
      envelope.messageId.toVec = row.messageId

structure SettlementStatusRow.WellFormed (row : SettlementStatusRow) :
    Prop where
  sized : row.messageId.length = 32
  status : ∃ status, SettlementStatus.fromStr row.status = .ok status

/-- The statuses of a history are texts to every reader. -/
structure DbSnapshot.WellFormed (crates : Crates) (snapshot : DbSnapshot) :
    Prop where
  queuedEnvelopes : ∀ row ∈ snapshot.queuedEnvelopes, row.WellFormed crates
  settlementStatus : ∀ row ∈ snapshot.settlementStatus, row.WellFormed
  settlementHistory : ∀ row ∈ snapshot.settlementHistory,
    row.messageId.length = 32

/-- The rows of a snapshot, in the order they are listed in. -/
def DbSnapshot.scans (snapshot : DbSnapshot) (keyed : snapshot.Keyed) :
    TableScans where
  queuedEnvelopes := ⟨_, keyed.queuedEnvelopes⟩
  settlementStatus := ⟨_, keyed.settlementStatus⟩
  sequenceReservations := ⟨_, keyed.sequenceReservations⟩
  conflicts := snapshot.conflicts
  settlementHistory := snapshot.settlementHistory
  disputeEscalations := snapshot.disputeEscalations

namespace StoreDb

theorem insertSnapshot_keyed {snapshot : DbSnapshot}
    (keyed : snapshot.Keyed) :
    empty.insertSnapshot snapshot = .ok (restored (snapshot.scans keyed)) := by
  have enumerate :
      (snapshot.scans keyed).Enumerate (restored (snapshot.scans keyed)) :=
    ⟨rfl, rfl, rfl, List.Perm.refl _, List.Perm.refl _, List.Perm.refl _⟩
  have inserted := insertSnapshot_empty ⟨keyed.settlementHistory,
    keyed.disputeEscalations, keyed.conflicts⟩ enumerate
  obtain ⟨envelopes, statuses, reservations⟩ :=
    map_values_select (snapshot.scans keyed)
  unfold insertSnapshot at inserted ⊢
  rw [envelopes, statuses, reservations] at inserted
  exact inserted

theorem keyed_of_insertSnapshot {snapshot : DbSnapshot} {after : StoreDb}
    (inserted : empty.insertSnapshot snapshot = .ok after) :
    snapshot.Keyed := by
  obtain ⟨_, envelopes, inserted⟩ := exists_of_bind_ok inserted
  obtain ⟨_, statuses, inserted⟩ := exists_of_bind_ok inserted
  obtain ⟨_, reservations, inserted⟩ := exists_of_bind_ok inserted
  obtain ⟨_, conflicts, inserted⟩ := exists_of_bind_ok inserted
  obtain ⟨_, history, inserted⟩ := exists_of_bind_ok inserted
  obtain ⟨_, escalations, inserted⟩ := exists_of_bind_ok inserted
  exact ⟨(HashMap.nodupKeys_of_foldlM envelopes).1,
    (HashMap.nodupKeys_of_foldlM statuses).1,
    (HashMap.nodupKeys_of_foldlM reservations).1,
    distinctIds_of_inserted conflicts, distinctIds_of_inserted history,
    distinctIds_of_inserted escalations⟩

theorem importStatements_empty (snapshot : DbSnapshot) :
    importStatements snapshot empty = empty.insertSnapshot snapshot :=
  if_neg (not_not.mpr rfl)

variable {serde : RmpSerde DbSnapshot} {data : Bytes}

theorem importSnapshot_keyed {snapshot : DbSnapshot}
    (decoded : serde.fromSlice data = .ok snapshot)
    (version : snapshot.schemaVersion = dbSnapshotSchemaVersion)
    (keyed : snapshot.Keyed) :
    empty.importSnapshot serde data .applied =
      .returned (restored (snapshot.scans keyed)) (.ok snapshot.report) := by
  unfold importSnapshot
  rw [decoded]
  simp only [if_neg (not_not.mpr version), Write.run, importStatements_empty,
    insertSnapshot_keyed keyed, Outcome.tryBind_ok]

/-- What an import accepts is a snapshot of this version without repeated
keys. -/
theorem keyed_of_importSnapshot {after : StoreDb} {report : ImportReport}
    (imported : empty.importSnapshot serde data .applied =
      .returned after (.ok report)) :
    ∃ snapshot, serde.fromSlice data = .ok snapshot ∧
      snapshot.schemaVersion = dbSnapshotSchemaVersion ∧
      ∃ keyed : snapshot.Keyed,
        after = restored (snapshot.scans keyed) := by
  cases decoded : serde.fromSlice data with
  | error error =>
      rw [importSnapshot, decoded] at imported
      cases imported
  | ok snapshot =>
      by_cases version : snapshot.schemaVersion = dbSnapshotSchemaVersion
      · cases inserted : empty.insertSnapshot snapshot with
        | error error =>
            unfold importSnapshot at imported
            rw [decoded] at imported
            simp only [if_neg (not_not.mpr version), Write.run,
              importStatements_empty, inserted,
              Outcome.tryBind_error] at imported
            cases imported
        | ok made =>
            have keyed := keyed_of_insertSnapshot inserted
            rw [importSnapshot_keyed decoded version keyed] at imported
            exact ⟨snapshot, rfl, version, keyed,
              (Outcome.returned.inj imported).1.symm⟩
      · rw [importSnapshot, decoded] at imported
        simp only [if_pos version] at imported
        cases imported

theorem importSnapshot_not_crashed {store after : StoreDb} :
    store.importSnapshot serde data .applied ≠ .crashed after := by
  intro crashed
  unfold importSnapshot at crashed
  cases decoded : serde.fromSlice data with
  | error error =>
      rw [decoded] at crashed
      cases crashed
  | ok snapshot =>
      rw [decoded] at crashed
      dsimp only at crashed
      split at crashed
      · cases crashed
      · cases made : importStatements snapshot store with
        | error error => simp [Write.run, made] at crashed
        | ok next => simp [Write.run, made] at crashed

/-! What the readers make of the imported rows. -/

variable {crates : Crates} {snapshot : DbSnapshot} {keyed : snapshot.Keyed}

theorem mem_rows_of_scan
    {scan : HashMap.Listing Bytes QueuedEnvelopeColumns}
    (scanned : scan.toFinmap =
      (restored (snapshot.scans keyed)).db.queuedEnvelopes)
    {entry : Sigma fun _ : Bytes => QueuedEnvelopeColumns}
    (listed : entry ∈ scan.entries) :
    ∃ row ∈ snapshot.queuedEnvelopes, row.values = entry := by
  have held : scan.lookup entry.1 = some entry.2 :=
    AList.mem_lookup_iff.mpr listed
  rw [← Finmap.lookup_toFinmap, scanned] at held
  have stored : entry ∈ (snapshot.scans keyed).queuedEnvelopes.entries := by
    apply AList.mem_lookup_iff.mp
    rw [← Finmap.lookup_toFinmap]
    exact held
  exact List.mem_map.mp stored

theorem decodeQueuedEnvelope_values {row : QueuedEnvelopeRow}
    (formed : row.WellFormed crates) :
    ∃ record, SyncEngineDb.init.decodeQueuedEnvelope crates row.values.2 =
      .ok record := by
  obtain ⟨priority, known⟩ := formed.priority
  obtain ⟨envelope, decoded, -⟩ := formed.envelope
  refine ⟨⟨envelope, row.sourceAccount, row.sequence, priority,
    row.enqueuedAt.toUInt64⟩, ?_⟩
  simp only [SyncEngineDb.decodeQueuedEnvelope, SyncEngineDb.init,
    QueuedEnvelopeRow.values, decoded, known, bind, Except.bind]
  rfl

theorem getSettlementStatus_restored (formed : snapshot.WellFormed crates)
    (messageId : Bytes32) :
    ∃ status, SyncEngineDb.getSettlementStatus messageId
      (restored (snapshot.scans keyed)).db = .ok status := by
  unfold SyncEngineDb.getSettlementStatus Database.statusText
  cases held : (restored (snapshot.scans keyed)).db.settlementStatus.lookup
      messageId.toVec with
  | none => exact ⟨none, rfl⟩
  | some columns =>
      have listed : (⟨messageId.toVec, columns⟩ :
          Sigma fun _ : Bytes => SettlementStatusColumns) ∈
          (snapshot.scans keyed).settlementStatus.entries := by
        apply AList.mem_lookup_iff.mp
        rw [← Finmap.lookup_toFinmap]
        exact held
      obtain ⟨row, member, same⟩ := List.mem_map.mp listed
      obtain ⟨status, parsed⟩ := (formed.settlementStatus row member).status
      have text : columns.status = row.status := by
        rw [SettlementStatusRow.values, Sigma.mk.injEq] at same
        rw [← eq_of_heq same.2]
      refine ⟨some status, ?_⟩
      simp only [Option.map_some, text, parsed, Except.map]

theorem rehydrate_of_statuses {db : Database}
    (statuses : ∀ messageId, ∃ status,
      SyncEngineDb.getSettlementStatus messageId db = .ok status)
    (acc : OutboundTxQueue × SettlementTracker)
    (record : QueuedEnvelopeRecord) :
    ∃ next, SyncEngine.rehydrate db acc record = .ok next := by
  obtain ⟨persisted, found⟩ := statuses record.envelope.messageId
  unfold SyncEngine.rehydrate
  rw [found]
  simp only [bind, Except.bind]
  split
  · exact ⟨_, rfl⟩
  · exact ⟨_, rfl⟩

/-- Every reader of the database succeeds, in whatever order it finds the
rows. -/
structure Loads (crates : Crates) (store : StoreDb) : Prop where
  lists : ∀ scan : HashMap.Listing Bytes QueuedEnvelopeColumns,
    scan.toFinmap = store.db.queuedEnvelopes →
    ∃ records, SyncEngineDb.init.listQueuedEnvelopes crates scan = .ok records
  statuses : ∀ messageId, ∃ status,
    SyncEngineDb.getSettlementStatus messageId store.db = .ok status
  opens : ∀ dbPath scans, scans.Enumerate store.db →
    ∃ engine, SyncEngine.openPath crates dbPath scans .served store.db =
      .ok engine

theorem loads_restored (formed : snapshot.WellFormed crates) :
    Loads crates (restored (snapshot.scans keyed)) := by
  have lists : ∀ scan : HashMap.Listing Bytes QueuedEnvelopeColumns,
      scan.toFinmap =
        (restored (snapshot.scans keyed)).db.queuedEnvelopes →
      ∃ records, SyncEngineDb.init.listQueuedEnvelopes crates scan =
        .ok records := by
    intro scan scanned
    refine ⟨_, mapM_eq_filterMap ?_⟩
    intro entry listed
    obtain ⟨row, member, rfl⟩ := mem_rows_of_scan scanned listed
    exact decodeQueuedEnvelope_values (formed.queuedEnvelopes row member)
  have statuses : ∀ messageId, ∃ status,
      SyncEngineDb.getSettlementStatus messageId
        (restored (snapshot.scans keyed)).db = .ok status :=
    getSettlementStatus_restored formed
  refine ⟨lists, statuses, ?_⟩
  intro dbPath scans enumerate
  obtain ⟨records, listed⟩ := lists scans.envelopes enumerate.envelopes
  have steps : ∀ acc, ∀ record ∈ records, ∃ next,
      SyncEngine.rehydrate (restored (snapshot.scans keyed)).db acc record =
        .ok next :=
    fun acc record _ => rehydrate_of_statuses statuses acc record
  obtain ⟨rebuilt, ran⟩ :=
    foldlM_ok_of_forall steps (OutboundTxQueue.new, .new)
  unfold SyncEngine.openPath
  simp only [listed, ran, bind, Except.bind]
  exact ⟨_, rfl⟩

/-- What an import accepts can be loaded, and a snapshot with a row that is
not well formed is not accepted. -/
structure ImportsLoadable (crates : Crates) (serde : RmpSerde DbSnapshot)
    (data : Bytes) (store : StoreDb) : Prop where
  loads : ∀ after report,
    store.importSnapshot serde data .applied =
      .returned after (.ok report) → Loads crates after
  rejects : ∀ snapshot, serde.fromSlice data = .ok snapshot →
    ¬ snapshot.WellFormed crates →
    ∃ error, store.importSnapshot serde data .applied =
      .returned store (.error error)

/-- Nothing but the version and the keys is checked, so that the rows have to
be well formed by themselves. -/
theorem importSnapshot_loadable_iff (crates : Crates)
    (serde : RmpSerde DbSnapshot) (data : Bytes) (store : StoreDb)
    (vacant : store.existingRows = 0) :
    ImportsLoadable crates serde data store ↔
      ∀ snapshot, serde.fromSlice data = .ok snapshot →
        snapshot.schemaVersion = dbSnapshotSchemaVersion →
        snapshot.Keyed → snapshot.WellFormed crates := by
  obtain rfl := eq_empty_of_existingRows vacant
  constructor
  · intro loadable snapshot decoded version keyed
    by_contra malformed
    obtain ⟨error, refused⟩ := loadable.rejects snapshot decoded malformed
    rw [importSnapshot_keyed decoded version keyed] at refused
    cases (Outcome.returned.inj refused).2
  · intro formed
    constructor
    · intro after report imported
      obtain ⟨snapshot, decoded, version, keyed, rfl⟩ :=
        keyed_of_importSnapshot imported
      exact loads_restored (formed snapshot decoded version keyed)
    · intro snapshot decoded malformed
      rcases importSnapshot_cases serde data .applied empty with
        ⟨error, failed⟩ | lost | ⟨_, after, -, -, -, committed | lost⟩
      · exact ⟨error, failed⟩
      · exact absurd lost importSnapshot_not_crashed
      · obtain ⟨same, decoded', version, keyed, -⟩ :=
          keyed_of_importSnapshot committed
        obtain rfl := Except.ok.inj (decoded.symm.trans decoded')
        exact absurd (formed snapshot decoded version keyed) malformed
      · exact absurd lost importSnapshot_not_crashed

/-! One envelope with its status, as the tables hold them and made up. -/

def importedSnapshot (priority : Int64) (status : String) : DbSnapshot where
  schemaVersion := dbSnapshotSchemaVersion
  queuedEnvelopes :=
    [⟨sessionEnvelope.messageId.toVec, "GA", 1, priority, 7, [1]⟩]
  settlementStatus := [⟨sessionEnvelope.messageId.toVec, status, 7⟩]
  sequenceReservations := []
  conflicts := []
  settlementHistory := []
  disputeEscalations := []

theorem importedSnapshot_keyed (priority : Int64) (status : String) :
    (importedSnapshot priority status).Keyed where
  queuedEnvelopes := List.nodupKeys_singleton _
  settlementStatus := List.nodupKeys_singleton _
  sequenceReservations := List.nodupKeys_nil
  conflicts := DistinctIds.nil
  settlementHistory := DistinctIds.nil
  disputeEscalations := DistinctIds.nil

/-- A priority and a status that no reader knows. -/
theorem malformed_import_accepted :
    let serde := RmpSerde.only (importedSnapshot 9 "lost")
    ∃ after, empty.importSnapshot serde [1] .applied =
        .returned after (.ok (importedSnapshot 9 "lost").report) ∧
      ¬ Loads sessionCrates after := by
  intro serde
  refine ⟨_, importSnapshot_keyed rfl rfl (importedSnapshot_keyed 9 "lost"),
    ?_⟩
  intro loads
  obtain ⟨status, read⟩ := loads.statuses sessionEnvelope.messageId
  have unknown : SyncEngineDb.getSettlementStatus sessionEnvelope.messageId
      (restored ((importedSnapshot 9 "lost").scans
        (importedSnapshot_keyed 9 "lost"))).db =
        (SettlementStatus.fromStr "lost").map some := by
    decide +kernel
  rw [unknown] at read
  cases read

theorem importSnapshot_loadable_sample :
    ImportsLoadable sessionCrates (RmpSerde.only (importedSnapshot 1 "queued"))
      [1] empty := by
  apply (importSnapshot_loadable_iff sessionCrates
    (RmpSerde.only (importedSnapshot 1 "queued")) [1] empty rfl).mpr
  intro snapshot decoded _ _
  obtain rfl : importedSnapshot 1 "queued" = snapshot :=
    Except.ok.inj decoded
  constructor
  · intro row member
    obtain rfl := List.mem_singleton.mp member
    exact ⟨⟨.normal, rfl⟩, sessionEnvelope, rfl, rfl⟩
  · intro row member
    obtain rfl := List.mem_singleton.mp member
    exact ⟨rfl, .queued, rfl⟩
  · intro row member
    exact absurd member List.not_mem_nil

end StoreDb

end StellarConduit
