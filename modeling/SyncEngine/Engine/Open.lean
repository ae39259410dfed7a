import SyncEngine.Engine

namespace StellarConduit

open Data

/-! What `open` rebuilds. Two partial functions say what a database holds for
an envelope: its record and the text of its status. -/

namespace Database

def record (crates : Crates) (db : Database) (key : Bytes) :
    Option QueuedEnvelopeRecord :=
  (db.queuedEnvelopes.lookup key).bind fun columns =>
    (SyncEngineDb.init.decodeQueuedEnvelope crates columns).toOption

/-- Every row can be read back: envelopes decode to the identifier they are
stored under, and each of them has a status. -/
structure Intact (crates : Crates) (db : Database) : Prop where
  decodes : ∀ key columns, db.queuedEnvelopes.lookup key = some columns →
    ∃ record,
      SyncEngineDb.init.decodeQueuedEnvelope crates columns = .ok record ∧
      record.envelope.messageId.toVec = key
  tracked : ∀ key, (db.queuedEnvelopes.lookup key).isSome =
    (db.statusText key).isSome
  statuses : ∀ key text, db.statusText key = some text →
    ∃ status : SettlementStatus, text = status.asStr

theorem Intact.record_of_status {crates : Crates} {db : Database}
    (intact : db.Intact crates) {messageId : Bytes32}
    (present : (db.statusText messageId.toVec).isSome) :
    ∃ record, db.record crates record.envelope.messageId.toVec = some record ∧
      record.envelope.messageId = messageId := by
  rw [← intact.tracked, Option.isSome_iff_exists] at present
  obtain ⟨columns, held⟩ := present
  obtain ⟨record, decoded, sameKey⟩ := intact.decodes _ _ held
  refine ⟨record, ?_, Bytes32.toVec_injective sameKey⟩
  rw [Database.record, sameKey, held]
  simp [decoded, Except.toOption]

theorem Intact.status_of_record {crates : Crates} {db : Database}
    (intact : db.Intact crates) {key : Bytes} {record : QueuedEnvelopeRecord}
    (found : db.record crates key = some record) :
    ∃ status : SettlementStatus, db.statusText key = some status.asStr := by
  obtain ⟨columns, held, _⟩ := Option.bind_eq_some_iff.mp found
  have tracked := intact.tracked key
  rw [held, Option.isSome_some, eq_comm, Option.isSome_iff_exists] at tracked
  obtain ⟨text, isText⟩ := tracked
  obtain ⟨status, rfl⟩ := intact.statuses _ _ isText
  exact ⟨status, isText⟩

end Database

namespace SyncEngine

/-- The engine that `open` builds from an intact database. -/
structure Reopened (crates : Crates) (db : Database) (engine : SyncEngine) :
    Prop where
  unguarded : engine.queue.emergencyGuard = none
  sequences : engine.sequences =
    ⟨db.sequenceReservations, db.sequenceReservations⟩
  status : ∀ messageId,
    (engine.settlement.status messageId).map SettlementStatus.asStr =
      db.statusText messageId.toVec
  entries : ∀ entry, entry ∈ engine.queue.entries ↔
    ∃ record, db.record crates record.envelope.messageId.toVec = some record ∧
      db.statusText record.envelope.messageId.toVec =
        some SettlementStatus.queued.asStr ∧
      entry = record.queuedTx
  distinct : (engine.queue.entries.map fun entry =>
    entry.envelope.messageId).Nodup

variable {crates : Crates} {db : Database}

theorem mapM_decode {rows : List (Sigma fun _ : Bytes => QueuedEnvelopeColumns)}
    (decodes : ∀ row ∈ rows, ∃ record,
      SyncEngineDb.init.decodeQueuedEnvelope crates row.2 = .ok record ∧
      record.envelope.messageId.toVec = row.1) :
    ∃ records, (rows.mapM fun row =>
        SyncEngineDb.init.decodeQueuedEnvelope crates row.2) = .ok records ∧
      records.map (fun record => (record.envelope.messageId.toVec,
        some record)) =
      rows.map fun row => (row.1,
        (SyncEngineDb.init.decodeQueuedEnvelope crates row.2).toOption) := by
  induction rows with
  | nil => exact ⟨[], rfl, rfl⟩
  | cons row rest induction =>
      obtain ⟨record, decoded, stored⟩ := decodes row (by simp)
      obtain ⟨records, read, same⟩ :=
        induction fun other member => decodes other (by simp [member])
      refine ⟨record :: records, ?_, ?_⟩
      · rw [List.mapM_cons, decoded, read]
        rfl
      · simp [same, decoded, stored, Except.toOption]

def restored (acc : OutboundTxQueue × SettlementTracker)
    (record : QueuedEnvelopeRecord) (status : SettlementStatus) :
    OutboundTxQueue × SettlementTracker :=
  (if status = .queued then
      { acc.1 with heap := acc.1.heap.push record.queuedTx }
    else acc.1,
    acc.2.restore record.envelope.messageId status)

theorem rehydrate_ok {acc : OutboundTxQueue × SettlementTracker}
    (unguarded : acc.1.emergencyGuard = none) {record : QueuedEnvelopeRecord}
    {status : SettlementStatus}
    (held : db.statusText record.envelope.messageId.toVec =
      some status.asStr) :
    rehydrate db acc record = .ok (restored acc record status) := by
  have read : SyncEngineDb.getSettlementStatus record.envelope.messageId db =
      .ok (some status) := by
    simp [SyncEngineDb.getSettlementStatus, held, Except.map]
  unfold restored
  by_cases queued : status = .queued
  · simp only [rehydrate, read, queued, if_true]
    exact congrArg (fun queue => Except.ok (queue, _))
      (OutboundTxQueue.restoreAt_unguarded unguarded _ _ _)
  · simp only [rehydrate, read, bind, Except.bind, Option.getD_some, queued,
      if_false]
    rfl

def stillQueued (db : Database) (record : QueuedEnvelopeRecord) : Bool :=
  db.statusText record.envelope.messageId.toVec =
    some SettlementStatus.queued.asStr

def requeued (db : Database) (records : List QueuedEnvelopeRecord) :
    List QueuedTx :=
  (records.filter (stillQueued db)).map QueuedEnvelopeRecord.queuedTx

theorem requeued_cons (db : Database) (record : QueuedEnvelopeRecord)
    (rest : List QueuedEnvelopeRecord) :
    requeued db (record :: rest) =
      requeued db [record] ++ requeued db rest := by
  rw [requeued, requeued, requeued, ← List.map_append, ← List.filter_append]
  rfl

theorem entries_restored (acc : OutboundTxQueue × SettlementTracker)
    {record : QueuedEnvelopeRecord} {status : SettlementStatus}
    (held : db.statusText record.envelope.messageId.toVec =
      some status.asStr) :
    (restored acc record status).1.entries.Perm
      (requeued db [record] ++ acc.1.entries) := by
  have decided : stillQueued db record = decide (status = .queued) := by
    simp [stillQueued, held]
  by_cases queued : status = .queued
  · have pushed := acc.1.heap.toList_push_perm record.queuedTx
    simpa [restored, requeued, queued, decided, OutboundTxQueue.entries]
      using pushed
  · simp [restored, requeued, queued, decided]

theorem foldlM_rehydrate {records : List QueuedEnvelopeRecord}
    (readable : ∀ record ∈ records, ∃ status : SettlementStatus,
      db.statusText record.envelope.messageId.toVec = some status.asStr)
    (acc : OutboundTxQueue × SettlementTracker)
    (unguarded : acc.1.emergencyGuard = none) :
    ∃ queue tracker,
      records.foldlM (rehydrate db) acc = .ok (queue, tracker) ∧
      queue.emergencyGuard = none ∧
      queue.entries.Perm (requeued db records ++ acc.1.entries) ∧
      ∀ messageId, (tracker.status messageId).map SettlementStatus.asStr =
        if messageId ∈ records.map fun record => record.envelope.messageId
        then db.statusText messageId.toVec
        else (acc.2.status messageId).map SettlementStatus.asStr := by
  induction records generalizing acc with
  | nil => exact ⟨acc.1, acc.2, rfl, unguarded, List.Perm.refl _, by simp⟩
  | cons record rest induction =>
      obtain ⟨status, held⟩ := readable record (by simp)
      have nextUnguarded :
          (restored acc record status).1.emergencyGuard = none := by
        unfold restored
        split <;> exact unguarded
      obtain ⟨queue, tracker, folded, guardless, perm, statuses⟩ := induction
        (fun other member => readable other (by simp [member]))
        (restored acc record status) nextUnguarded
      refine ⟨queue, tracker, ?_, guardless, ?_, ?_⟩
      · rw [List.foldlM_cons, rehydrate_ok unguarded held]
        exact folded
      · have inner :=
          (entries_restored acc held).append_left (requeued db rest)
        rw [requeued_cons, List.append_assoc]
        exact (perm.trans inner).trans (List.perm_append_comm_assoc _ _ _)
      · intro messageId
        rw [statuses messageId]
        by_cases later :
            messageId ∈ rest.map fun record => record.envelope.messageId
        · have member : messageId ∈ (record :: rest).map fun record =>
              record.envelope.messageId :=
            List.mem_cons_of_mem _ later
          rw [if_pos later, if_pos member]
        · rw [if_neg later]
          by_cases same : messageId = record.envelope.messageId
          · simp [restored, SettlementTracker.status_restore, same, held]
          · have absent : messageId ∉ (record :: rest).map fun record =>
                record.envelope.messageId := by
              simpa [same] using later
            rw [if_neg absent]
            simp [restored, SettlementTracker.status_restore, same]

theorem foldl_seed (rows : List (Sigma fun _ : String => Int64))
    (manager : SequenceReservationManager) :
    rows.foldl (fun acc row => acc.seed row.1 row.2) manager =
      ⟨rows.foldl (fun acc row => acc.insert row.1 row.2) manager.baseline,
        rows.foldl (fun acc row => acc.insert row.1 row.2)
          manager.reserved⟩ := by
  induction rows generalizing manager with
  | nil => rfl
  | cons row rest induction => exact induction _

theorem listQueuedEnvelopes_ok (intact : db.Intact crates) {scans : Scans}
    (enumerate : scans.Enumerate db) :
    ∃ records,
      SyncEngineDb.init.listQueuedEnvelopes crates scans.envelopes =
        .ok records ∧
      (∀ record, record ∈ records ↔
        db.record crates record.envelope.messageId.toVec = some record) ∧
      (records.map fun record => record.envelope.messageId).Nodup := by
  have scanned (key : Bytes) (columns : QueuedEnvelopeColumns) :
      ⟨key, columns⟩ ∈ scans.envelopes.entries ↔
        db.queuedEnvelopes.lookup key = some columns := by
    rw [← enumerate.envelopes, Finmap.lookup_toFinmap]
    exact AList.mem_lookup_iff.symm
  obtain ⟨records, read, same⟩ := mapM_decode
    fun row member => intact.decodes row.1 row.2 ((scanned _ _).mp member)
  refine ⟨records, read, ?_, ?_⟩
  · intro record
    have listed : record ∈ records ↔
        (record.envelope.messageId.toVec, some record) ∈
          records.map fun record =>
            (record.envelope.messageId.toVec, some record) := by
      simp
    rw [listed, same, List.mem_map, Database.record,
      Option.bind_eq_some_iff]
    constructor
    · rintro ⟨row, member, equal⟩
      obtain ⟨sameKey, decoded⟩ := Prod.mk.inj equal
      exact ⟨row.2, (scanned _ _).mp (sameKey ▸ member), decoded⟩
    · rintro ⟨columns, held, decoded⟩
      exact ⟨⟨_, columns⟩, (scanned _ _).mpr held, Prod.ext rfl decoded⟩
  · have keys : records.map (fun record => record.envelope.messageId.toVec) =
        scans.envelopes.entries.keys := by
      have firsts := congrArg (List.map Prod.fst) same
      simpa [List.map_map, Function.comp_def, List.keys] using firsts
    have distinct : ((records.map fun record =>
        record.envelope.messageId).map Bytes32.toVec).Nodup := by
      rw [List.map_map]
      exact keys ▸ scans.envelopes.nodupKeys
    exact distinct.of_map _

/-- With its reads served, `open` rebuilds an engine from every intact
database, whatever the order of the scans. -/
theorem openPath_ok (intact : db.Intact crates) (dbPath : String)
    {scans : Scans} (enumerate : scans.Enumerate db) :
    ∃ engine, openPath crates dbPath scans .served db = .ok engine ∧
      engine.dispatchConn = openDispatchConnection dbPath ∧
      Reopened crates db engine := by
  obtain ⟨records, read, stored, distinct⟩ :=
    listQueuedEnvelopes_ok intact enumerate
  have readable : ∀ record ∈ records, ∃ status : SettlementStatus,
      db.statusText record.envelope.messageId.toVec = some status.asStr := by
    intro record member
    exact intact.status_of_record ((stored record).mp member)
  obtain ⟨queue, tracker, folded, unguarded, perm, statuses⟩ :=
    foldlM_rehydrate readable (OutboundTxQueue.new, .new) rfl
  let sequences := scans.reservations.entries.foldl
    (fun acc row => acc.seed row.1 row.2) SequenceReservationManager.new
  refine ⟨⟨queue, sequences, tracker, openDispatchConnection dbPath⟩, ?_, rfl,
    unguarded, ?_, ?_, ?_, ?_⟩
  · simp only [openPath, read, bind, Except.bind, folded]
    rfl
  · have rebuilt : scans.reservations.entries.foldl
        (fun acc row => acc.insert row.1 row.2) (∅ : HashMap String Int64) =
          db.sequenceReservations := by
      rw [HashMap.foldl_insert_listing, enumerate.reservations]
    simp [sequences, foldl_seed, SequenceReservationManager.new, rebuilt]
  · intro messageId
    rw [statuses messageId]
    split
    · rfl
    · rename_i absent
      cases isText : db.statusText messageId.toVec with
      | none => simp
      | some text =>
          obtain ⟨record, found, same⟩ :=
            intact.record_of_status (Option.isSome_of_eq_some isText)
          exact absurd (List.mem_map.mpr ⟨record, (stored record).mpr found,
            same⟩) absent
  · intro entry
    rw [perm.mem_iff]
    simp only [OutboundTxQueue.entries_new, List.append_nil, requeued,
      List.mem_map, List.mem_filter, stored, stillQueued, decide_eq_true_eq,
      and_assoc]
    exact exists_congr fun record =>
      and_congr_right' (and_congr_right' eq_comm)
  · have subset := perm.map fun entry : QueuedTx => entry.envelope.messageId
    refine subset.nodup_iff.mpr ?_
    simp only [OutboundTxQueue.entries_new, List.append_nil, requeued,
      List.map_map]
    exact distinct.sublist (List.filter_sublist.map _)

end SyncEngine

end StellarConduit
