import SyncEngine.Data.Table
import SyncEngine.Storage.Batch
import SyncEngine.Storage.Escalation
import SyncEngine.Storage.Sessions

namespace StellarConduit

open Data

/-! Statements that only write statuses and history. -/

/-- What such statements keep of a database. -/
structure KeptByStatuses (holds : Database → Prop) : Prop where
  replaced : ∀ db messageId status updatedAt, holds db →
    holds (db.replaceStatus messageId status updatedAt)
  appended : ∀ db messageId fromStatus toStatus timestamp, holds db →
    holds (db.appendHistory messageId fromStatus toStatus timestamp)

namespace KeptByStatuses

variable {holds : Database → Prop} {db : Database}

theorem setSettlementStatus (kept : KeptByStatuses holds)
    (messageId : Bytes32) (status : SettlementStatus) (updatedAt : UInt64)
    (writes : StatusWrites) (start : holds db) :
    holds (SyncEngineDb.setSettlementStatus messageId status updatedAt writes
      db).durable := by
  have replaced := kept.replaced db messageId.toVec status updatedAt start
  have appended := kept.appended _ messageId.toVec
    (SyncEngineDb.selectFromStatus messageId writes.select db) status
    updatedAt replaced
  obtain ⟨select, replace, append⟩ := writes
  cases replace with
  | refused => exact start
  | lostBefore => exact start
  | lostAfter => exact replaced
  | applied =>
      cases append with
      | applied => exact appended
      | refused => exact replaced
      | lostBefore => exact replaced
      | lostAfter => exact appended

theorem batchRounds (kept : KeptByStatuses holds)
    (updates : List StatusUpdate) (report : BatchUpdateReport)
    (start : holds db) :
    holds (updates.foldl SyncEngineDb.batchRound (db, report)).1 := by
  induction updates generalizing db report with
  | nil => exact start
  | cons update rest induction =>
      rw [List.foldl_cons]
      rcases SyncEngineDb.batchRound_cases db update with
        ⟨current, -, -, round⟩ | ⟨reason, round⟩
      · rw [round]
        apply induction
        apply kept.appended
        exact kept.replaced _ _ _ _ start
      · rw [round]
        exact induction _ start

theorem setSettlementStatusBatch (kept : KeptByStatuses holds)
    (updates : List StatusUpdate) (write : Write) (start : holds db) :
    holds (SyncEngineDb.setSettlementStatusBatch updates write
      db).durable := by
  have committed := kept.batchRounds updates ⟨[], []⟩ start
  cases write with
  | applied => exact committed
  | refused => exact start
  | lostBefore => exact start
  | lostAfter => exact committed

theorem saveEscalation (kept : KeptByStatuses holds) {RelayChainProof : Type}
    (encode : RelayChainProof → Except SyncEngineError Bytes)
    (conflict : Conflict) (escalation : DisputeEscalation RelayChainProof)
    (createdAt : UInt64) (writes : EscalationWrites) (store : EscalationDb)
    (start : holds store.db) :
    holds (EscalationDb.saveEscalation encode conflict escalation createdAt
      writes store).durable.db := by
  unfold EscalationDb.saveEscalation
  cases encode escalation.proof with
  | error error => exact start
  | ok proofBytes =>
      have status : ∀ (store : EscalationDb) messageId statusWrites,
          holds store.db → holds (store.setSettlementStatus messageId
            .disputed createdAt statusWrites).durable.db := by
        intro store messageId statusWrites before
        rw [EscalationDb.setSettlementStatus, Outcome.durable_within]
        exact kept.setSettlementStatus _ _ _ _ before
      dsimp only
      cases writes.insert with
      | refused => exact start
      | lostBefore => exact start
      | lostAfter => exact start
      | applied =>
          simp only [Write.run, Outcome.tryBind_ok]
          rw [EscalationDb.durable_tryBind_setSettlementStatus]
          split
          · rw [EscalationDb.durable_tryBind_setSettlementStatus]
            simp only [Outcome.durable_returned, ite_self]
            apply status
            apply status
            exact start
          · apply status
            exact start

end KeptByStatuses

theorem keptByStatuses_queuedEnvelopes
    (table : HashMap Bytes QueuedEnvelopeColumns) :
    KeptByStatuses fun db => db.queuedEnvelopes = table where
  replaced _ _ _ _ same := same
  appended _ _ _ _ _ same := same

theorem keptByStatuses_settlementHistory :
    KeptByStatuses fun db =>
      DistinctIds SettlementHistoryRow.id db.settlementHistory where
  replaced _ _ _ _ distinct := distinct
  appended _ _ _ _ _ distinct := distinct.snoc_nextId rfl

/-! All tables that hold data, and every call that writes to them. -/

structure ConflictRow where
  id : Int
  sourceAccount : String
  sequence : Int64
  envelopeA : Bytes
  envelopeB : Bytes
  detectedAt : Int64
  resolved : Int64
  deriving DecidableEq

structure StoreDb extends EscalationDb where
  conflicts : List ConflictRow
  deriving DecidableEq

inductive StoreCall (RelayChainProof : Type)
  | enqueueEnvelope (record : QueuedEnvelopeRecord) (write : Write)
  | enqueueTransaction (record : QueuedEnvelopeRecord) (write : Write)
  | removeQueuedEnvelope (messageId : Bytes32) (write : Write)
  | setSettlementStatus (messageId : Bytes32) (status : SettlementStatus)
      (updatedAt : UInt64) (writes : StatusWrites)
  | setSettlementStatusBatch (updates : List StatusUpdate) (write : Write)
  | persistDispatchStatus (messageId : Bytes32) (updatedAt : UInt64)
      (write : Write)
  | saveSequenceReservation (sourceAccount : String) (lastReserved : Int64)
      (write : Write)
  | recordConflict (conflict : Conflict) (detectedAt : UInt64)
      (write : Write)
  | saveEscalation (conflict : Conflict)
      (escalation : DisputeEscalation RelayChainProof) (createdAt : UInt64)
      (writes : EscalationWrites)
  | markEscalationSubmitted (id : Int) (write : Write)

namespace StoreDb

def empty : StoreDb := ⟨⟨Database.empty, []⟩, []⟩

def conflictRow (store : StoreDb) (conflict : Conflict)
    (detectedAt : UInt64) : ConflictRow where
  id := nextId ConflictRow.id store.conflicts
  sourceAccount := conflict.sourceAccount
  sequence := conflict.sequence
  envelopeA := conflict.envelopeA.toVec
  envelopeB := conflict.envelopeB.toVec
  detectedAt := detectedAt.toInt64
  resolved := 0

def recordConflict (conflict : Conflict) (detectedAt : UInt64)
    (write : Write) (store : StoreDb) :
    Outcome StoreDb (Except SyncEngineError Unit) :=
  write.run .connectionError (fun store => .ok { store with
    conflicts := store.conflicts ++ [store.conflictRow conflict
      detectedAt] }) store

def markSubmitted (id : Int) (row : DisputeEscalationRow) :
    DisputeEscalationRow :=
  if row.id = id then { row with submitted := 1 } else row

@[simp] theorem id_markSubmitted (id : Int) (row : DisputeEscalationRow) :
    (markSubmitted id row).id = row.id := by
  unfold markSubmitted
  split <;> rfl

@[simp] theorem txId_markSubmitted (id : Int) (row : DisputeEscalationRow) :
    (markSubmitted id row).txId = row.txId := by
  unfold markSubmitted
  split <;> rfl

@[simp] theorem proofBytes_markSubmitted (id : Int)
    (row : DisputeEscalationRow) :
    (markSubmitted id row).proofBytes = row.proofBytes := by
  unfold markSubmitted
  split <;> rfl

def markEscalationSubmitted (id : Int) (write : Write) (store : StoreDb) :
    Outcome StoreDb (Except SyncEngineError Unit) :=
  write.run .connectionError (fun store => .ok { store with
    disputeEscalations := store.disputeEscalations.map (markSubmitted id) })
    store

variable {RelayChainProof : Type}

/-- What a call on a handle leaves in the tables. `encode` is
`rmp_serde::to_vec` at `RelayChainProof`. -/
def perform (self : SyncEngineDb) (crates : Crates)
    (encode : RelayChainProof → Except SyncEngineError Bytes)
    (store : StoreDb) : StoreCall RelayChainProof → StoreDb
  | .enqueueEnvelope record write =>
      { store with
        db := (self.enqueueEnvelope crates record.envelope
          record.sourceAccount record.sequence record.priority
          record.enqueuedAt write store.db).durable }
  | .enqueueTransaction record write =>
      { store with
        db := (self.enqueueTransaction crates record.envelope
          record.sourceAccount record.sequence record.priority
          record.enqueuedAt write store.db).durable }
  | .removeQueuedEnvelope messageId write =>
      { store with
        db := (SyncEngineDb.removeQueuedEnvelope messageId write
          store.db).durable }
  | .setSettlementStatus messageId status updatedAt writes =>
      { store with
        db := (SyncEngineDb.setSettlementStatus messageId status updatedAt
          writes store.db).durable }
  | .setSettlementStatusBatch updates write =>
      { store with
        db := (SyncEngineDb.setSettlementStatusBatch updates write
          store.db).durable }
  | .persistDispatchStatus messageId updatedAt write =>
      -- the engine's own connection, which is to the same file
      { store with
        db := (write.run SyncEngineError.sqliteError (fun db =>
          .ok (db.replaceStatus messageId.toVec .propagating updatedAt))
          store.db).durable }
  | .saveSequenceReservation sourceAccount lastReserved write =>
      { store with
        db := (SyncEngineDb.saveSequenceReservation sourceAccount
          lastReserved write store.db).durable }
  | .recordConflict conflict detectedAt write =>
      (store.recordConflict conflict detectedAt write).durable
  | .saveEscalation conflict escalation createdAt writes =>
      { store with
        toEscalationDb := (EscalationDb.saveEscalation encode conflict
          escalation createdAt writes store.toEscalationDb).durable }
  | .markEscalationSubmitted id write =>
      (store.markEscalationSubmitted id write).durable

/-! What a call makes of each table. -/

section

variable (self : SyncEngineDb) (crates : Crates)
  (encode : RelayChainProof → Except SyncEngineError Bytes) (store : StoreDb)

theorem lookup_enqueued {record : QueuedEnvelopeRecord} {write : Write}
    {db : Database} {messageId : Bytes} {columns : QueuedEnvelopeColumns}
    (table : db.queuedEnvelopes =
      self.enqueued crates record write store.db.queuedEnvelopes)
    (found : db.queuedEnvelopes.lookup messageId = some columns) :
    store.db.queuedEnvelopes.lookup messageId = some columns ∨
      ∃ (record : QueuedEnvelopeRecord) (envelopeBytes : Bytes),
        self.storedBytes crates record.envelope = .ok envelopeBytes ∧
        columns = record.columns envelopeBytes := by
  rw [table, SyncEngineDb.enqueued] at found
  split at found
  · exact Or.inl found
  · rename_i envelopeBytes bytes
    split at found
    · rw [HashMap.lookup_insert_ite] at found
      split at found
      · obtain rfl := Option.some_inj.mp found
        exact Or.inr ⟨record, envelopeBytes, bytes, rfl⟩
      · exact Or.inl found
    · exact Or.inl found

/-- A row of the table of envelopes was there before, or this handle has just
stored it. -/
theorem lookup_perform {call : StoreCall RelayChainProof} {messageId : Bytes}
    {columns : QueuedEnvelopeColumns}
    (found : (store.perform self crates encode
      call).db.queuedEnvelopes.lookup messageId = some columns) :
    store.db.queuedEnvelopes.lookup messageId = some columns ∨
      ∃ (record : QueuedEnvelopeRecord) (envelopeBytes : Bytes),
        self.storedBytes crates record.envelope = .ok envelopeBytes ∧
        columns = record.columns envelopeBytes := by
  have unchanged := keptByStatuses_queuedEnvelopes store.db.queuedEnvelopes
  cases call with
  | enqueueEnvelope record write =>
      exact lookup_enqueued self crates store
        (SyncEngineDb.queuedEnvelopes_enqueueEnvelope _ _ record write _) found
  | enqueueTransaction record write =>
      exact lookup_enqueued self crates store
        (SyncEngineDb.queuedEnvelopes_enqueueTransaction _ _ record write _)
        found
  | removeQueuedEnvelope id write =>
      left
      dsimp only [perform] at found
      rw [SyncEngineDb.queuedEnvelopes_removeQueuedEnvelope] at found
      split at found
      · exact HashMap.lookup_of_lookup_erase found
      · exact found
  | setSettlementStatus id status updatedAt writes =>
      left
      rw [← unchanged.setSettlementStatus id status updatedAt writes rfl]
      exact found
  | setSettlementStatusBatch updates write =>
      left
      rw [← unchanged.setSettlementStatusBatch updates write rfl]
      exact found
  | persistDispatchStatus id updatedAt write =>
      cases write <;> exact Or.inl found
  | saveSequenceReservation sourceAccount lastReserved write =>
      cases write <;> exact Or.inl found
  | recordConflict conflict detectedAt write =>
      cases write <;> exact Or.inl found
  | saveEscalation conflict escalation createdAt writes =>
      left
      rw [← unchanged.saveEscalation encode conflict escalation createdAt
        writes store.toEscalationDb rfl]
      exact found
  | markEscalationSubmitted id write =>
      cases write <;> exact Or.inl found

/-- An escalation gets stored: its proof is encoded and its row inserted. -/
def Stores (encode : RelayChainProof → Except SyncEngineError Bytes)
    (escalation : DisputeEscalation RelayChainProof)
    (writes : EscalationWrites) (proofBytes : Bytes) : Prop :=
  encode escalation.proof = .ok proofBytes ∧
    writes.insert.takesEffect = true

theorem disputeEscalations_saveEscalation (conflict : Conflict)
    (escalation : DisputeEscalation RelayChainProof) (createdAt : UInt64)
    (writes : EscalationWrites) :
    ((∀ proofBytes, ¬ Stores encode escalation writes proofBytes) ∧
      (store.perform self crates encode (.saveEscalation conflict escalation
        createdAt writes)).disputeEscalations = store.disputeEscalations) ∨
    ∃ proofBytes, Stores encode escalation writes proofBytes ∧
      (store.perform self crates encode (.saveEscalation conflict escalation
        createdAt writes)).disputeEscalations =
        store.disputeEscalations ++ [store.toEscalationDb.escalationRow
          conflict escalation proofBytes createdAt] := by
  by_cases stored : ∃ proofBytes, Stores encode escalation writes proofBytes
  · obtain ⟨proofBytes, encoded, inserted⟩ := stored
    exact Or.inr ⟨proofBytes, ⟨encoded, inserted⟩,
      (EscalationDb.saveEscalation_inserted conflict createdAt
        store.toEscalationDb encoded inserted).1⟩
  · rw [not_exists] at stored
    refine Or.inl ⟨stored, ?_⟩
    have refused : ∀ proofBytes,
        encode escalation.proof = .ok proofBytes →
        writes.insert.takesEffect = false := by
      intro proofBytes encoded
      apply Bool.eq_false_iff.mpr
      intro taken
      exact stored proofBytes ⟨encoded, taken⟩
    have unchanged := EscalationDb.saveEscalation_unchanged conflict createdAt
      store.toEscalationDb refused
    exact congrArg EscalationDb.disputeEscalations unchanged

/-- Every other call leaves the escalations as they are, but for the flag that
says whether they have been submitted. -/
theorem disputeEscalations_perform {call : StoreCall RelayChainProof}
    (other : ∀ conflict escalation createdAt writes,
      call ≠ .saveEscalation conflict escalation createdAt writes) :
    (store.perform self crates encode call).disputeEscalations =
        store.disputeEscalations ∨
      ∃ id, (store.perform self crates encode call).disputeEscalations =
        store.disputeEscalations.map (markSubmitted id) := by
  cases call with
  | saveEscalation conflict escalation createdAt writes =>
      exact absurd rfl (other conflict escalation createdAt writes)
  | recordConflict conflict detectedAt write =>
      cases write <;> exact Or.inl rfl
  | markEscalationSubmitted id write =>
      cases write with
      | applied => exact Or.inr ⟨id, rfl⟩
      | refused => exact Or.inl rfl
      | lostBefore => exact Or.inl rfl
      | lostAfter => exact Or.inr ⟨id, rfl⟩
  | _ => exact Or.inl rfl

end

/-- No table has an id twice. -/
structure Keyed (store : StoreDb) : Prop where
  settlementHistory :
    DistinctIds SettlementHistoryRow.id store.db.settlementHistory
  disputeEscalations :
    DistinctIds DisputeEscalationRow.id store.disputeEscalations
  conflicts : DistinctIds ConflictRow.id store.conflicts

theorem keyed_empty : Keyed empty where
  settlementHistory := DistinctIds.nil
  disputeEscalations := DistinctIds.nil
  conflicts := DistinctIds.nil

variable {self : SyncEngineDb} {crates : Crates}
  {encode : RelayChainProof → Except SyncEngineError Bytes} {store : StoreDb}

theorem distinctIds_markSubmitted (id : Int)
    {rows : List DisputeEscalationRow}
    (distinct : DistinctIds DisputeEscalationRow.id rows) :
    DistinctIds DisputeEscalationRow.id (rows.map (markSubmitted id)) := by
  have same : DisputeEscalationRow.id ∘ markSubmitted id =
      DisputeEscalationRow.id := by
    funext row
    exact id_markSubmitted id row
  rw [DistinctIds, List.map_map, same]
  exact distinct

/-- A call on the database keeps a store keyed that keeps its history so. -/
theorem Keyed.withDb (keyed : store.Keyed) {db : Database}
    (history : DistinctIds SettlementHistoryRow.id db.settlementHistory) :
    Keyed { store with db := db } where
  settlementHistory := history
  disputeEscalations := keyed.disputeEscalations
  conflicts := keyed.conflicts

/-- So does a write whose statement leaves the history alone. -/
theorem Keyed.withWrite (keyed : store.Keyed) {statement : Database → Database}
    (same : (statement store.db).settlementHistory =
      store.db.settlementHistory) (write : Write) (refusal : SyncEngineError) :
    Keyed { store with
      db := (write.run refusal (fun db => .ok (statement db))
        store.db).durable } := by
  have unchanged : (write.run refusal (fun db => .ok (statement db))
      store.db).durable.settlementHistory = store.db.settlementHistory := by
    cases write with
    | applied => exact same
    | refused => rfl
    | lostBefore => rfl
    | lostAfter => exact same
  apply keyed.withDb
  rw [unchanged]
  exact keyed.settlementHistory

theorem Keyed.perform (keyed : store.Keyed)
    (call : StoreCall RelayChainProof) :
    (store.perform self crates encode call).Keyed := by
  have history := keptByStatuses_settlementHistory
  cases call with
  | enqueueEnvelope record write =>
      dsimp only [StoreDb.perform, SyncEngineDb.enqueueEnvelope]
      split
      · exact keyed
      · split
        · exact keyed
        · exact keyed.withWrite rfl write _
  | enqueueTransaction record write =>
      dsimp only [StoreDb.perform, SyncEngineDb.enqueueTransaction]
      split
      · exact keyed
      · split
        · exact keyed
        · exact keyed.withWrite rfl write _
  | removeQueuedEnvelope id write => exact keyed.withWrite rfl write _
  | setSettlementStatus id status updatedAt writes =>
      apply keyed.withDb
      exact history.setSettlementStatus id status updatedAt writes
        keyed.settlementHistory
  | setSettlementStatusBatch updates write =>
      apply keyed.withDb
      exact history.setSettlementStatusBatch updates write
        keyed.settlementHistory
  | persistDispatchStatus id updatedAt write =>
      exact keyed.withWrite rfl write _
  | saveSequenceReservation sourceAccount lastReserved write =>
      exact keyed.withWrite rfl write _
  | recordConflict conflict detectedAt write =>
      apply Write.durable_run keyed
      intro after made
      obtain rfl := Except.ok.inj made
      exact ⟨keyed.settlementHistory, keyed.disputeEscalations,
        keyed.conflicts.snoc_nextId rfl⟩
  | saveEscalation conflict escalation createdAt writes =>
      refine ⟨history.saveEscalation encode conflict escalation createdAt
        writes store.toEscalationDb keyed.settlementHistory, ?_,
        keyed.conflicts⟩
      rcases disputeEscalations_saveEscalation self crates encode store
        conflict escalation createdAt writes with
        ⟨-, same⟩ | ⟨proofBytes, -, inserted⟩
      · rw [same]
        exact keyed.disputeEscalations
      · rw [inserted]
        exact keyed.disputeEscalations.snoc_nextId rfl
  | markEscalationSubmitted id write =>
      apply Write.durable_run keyed
      intro after made
      obtain rfl := Except.ok.inj made
      exact ⟨keyed.settlementHistory,
        distinctIds_markSubmitted id keyed.disputeEscalations,
        keyed.conflicts⟩

end StoreDb

/-! What is stored in the columns that hold sensitive data. -/

/-- `bytes` is what an encryption under this key yields. -/
def Ciphertext (cipher : Aes256Gcm) (encryptionKey : EncryptionKey)
    (bytes : Bytes) : Prop :=
  ∃ plaintext nonce,
    EncryptedData.encrypt cipher plaintext encryptionKey nonce = .ok ⟨bytes⟩

theorem ciphertext_of_storedBytes {cipher : Aes256Gcm} {crates : Crates}
    {encryptionKey : EncryptionKey} {nonce : EncryptionNonce}
    {envelope : TransactionEnvelope} {bytes : Bytes}
    (stored : (SyncEngineDb.withKey cipher (some encryptionKey)
      nonce).storedBytes crates envelope = .ok bytes) :
    Ciphertext cipher encryptionKey bytes := by
  dsimp only [SyncEngineDb.storedBytes, SyncEngineDb.withKey] at stored
  split at stored
  · cases stored
  · rename_i plaintext encoded
    cases encrypted : EncryptedData.encrypt cipher plaintext encryptionKey
        nonce with
    | error error => simp [encrypted, Except.map] at stored
    | ok data =>
        simp only [encrypted, Except.map, Except.ok.injEq] at stored
        subst stored
        exact ⟨plaintext, nonce, encrypted⟩

structure StoreDb.Concealed (cipher : Aes256Gcm)
    (encryptionKey : EncryptionKey) (store : StoreDb) : Prop where
  envelopeBytes : ∀ messageId columns,
    store.db.queuedEnvelopes.lookup messageId = some columns →
    Ciphertext cipher encryptionKey columns.envelopeBytes
  txId : ∀ row ∈ store.disputeEscalations,
    Ciphertext cipher encryptionKey row.txId
  proofBytes : ∀ row ∈ store.disputeEscalations,
    Ciphertext cipher encryptionKey row.proofBytes

/-- The call stores no escalation, or one whose identifier and encoded proof
happen to be ciphertexts as they are. -/
def StoreCall.Conceals {RelayChainProof : Type} (cipher : Aes256Gcm)
    (encryptionKey : EncryptionKey)
    (encode : RelayChainProof → Except SyncEngineError Bytes) :
    StoreCall RelayChainProof → Prop
  | .saveEscalation _ escalation _ writes =>
      ∀ proofBytes, StoreDb.Stores encode escalation writes proofBytes →
        Ciphertext cipher encryptionKey escalation.txId.toVec ∧
          Ciphertext cipher encryptionKey proofBytes
  | _ => True

/-- A call on a handle with the key of the label, if it has one. -/
structure StoreLabel (RelayChainProof : Type) where
  encryptionKey : Option EncryptionKey
  nonce : EncryptionNonce
  call : StoreCall RelayChainProof

def StoreLabel.perform {RelayChainProof : Type} (cipher : Aes256Gcm)
    (crates : Crates)
    (encode : RelayChainProof → Except SyncEngineError Bytes)
    (store : StoreDb) (label : StoreLabel RelayChainProof) : StoreDb :=
  store.perform
    (SyncEngineDb.withKey cipher label.encryptionKey label.nonce) crates encode
    label.call

def stores {RelayChainProof : Type} (cipher : Aes256Gcm) (crates : Crates)
    (encode : RelayChainProof → Except SyncEngineError Bytes)
    (start : StoreDb) : System StoreDb (StoreLabel RelayChainProof) where
  init store := store = start
  step store label next := next = label.perform cipher crates encode store

namespace StoreDb.Concealed

variable {RelayChainProof : Type} {cipher : Aes256Gcm} {crates : Crates}
  {encode : RelayChainProof → Except SyncEngineError Bytes}
  {encryptionKey : EncryptionKey} {nonce : EncryptionNonce} {store : StoreDb}

/-- The envelopes are concealed by every call on a handle with a key. -/
theorem envelopeBytes_perform (concealed : store.Concealed cipher encryptionKey)
    (crates : Crates)
    (encode : RelayChainProof → Except SyncEngineError Bytes)
    (nonce : EncryptionNonce) (call : StoreCall RelayChainProof) (messageId : Bytes)
    (columns : QueuedEnvelopeColumns)
    (found : (store.perform
      (SyncEngineDb.withKey cipher (some encryptionKey) nonce) crates encode
      call).db.queuedEnvelopes.lookup messageId = some columns) :
    Ciphertext cipher encryptionKey columns.envelopeBytes := by
  rcases lookup_perform _ _ _ _ found with
    before | ⟨record, envelopeBytes, bytes, rfl⟩
  · exact concealed.envelopeBytes messageId columns before
  · exact ciphertext_of_storedBytes bytes

/-- So are the escalations by every call that does not store one. -/
theorem perform_other (concealed : store.Concealed cipher encryptionKey)
    {call : StoreCall RelayChainProof}
    (other : ∀ conflict escalation createdAt writes,
      call ≠ .saveEscalation conflict escalation createdAt writes) :
    (store.perform (SyncEngineDb.withKey cipher (some encryptionKey) nonce)
      crates encode call).Concealed cipher encryptionKey := by
  have envelopes := concealed.envelopeBytes_perform crates encode nonce call
  rcases disputeEscalations_perform
    (SyncEngineDb.withKey cipher (some encryptionKey) nonce) crates encode
    store other with same | ⟨id, marked⟩
  · exact ⟨envelopes, same ▸ concealed.txId, same ▸ concealed.proofBytes⟩
  · refine ⟨envelopes, ?_, ?_⟩
    · rw [marked]
      intro row member
      obtain ⟨before, held, rfl⟩ := List.mem_map.mp member
      rw [txId_markSubmitted]
      exact concealed.txId before held
    · rw [marked]
      intro row member
      obtain ⟨before, held, rfl⟩ := List.mem_map.mp member
      rw [proofBytes_markSubmitted]
      exact concealed.proofBytes before held

/-- An escalation is stored as it is. -/
theorem saveEscalation_iff (concealed : store.Concealed cipher encryptionKey)
    (conflict : Conflict) (escalation : DisputeEscalation RelayChainProof)
    (createdAt : UInt64) (writes : EscalationWrites) :
    (store.perform (SyncEngineDb.withKey cipher (some encryptionKey) nonce)
        crates encode (.saveEscalation conflict escalation createdAt
          writes)).Concealed cipher encryptionKey ↔
      ∀ proofBytes, Stores encode escalation writes proofBytes →
        Ciphertext cipher encryptionKey escalation.txId.toVec ∧
          Ciphertext cipher encryptionKey proofBytes := by
  have envelopes := concealed.envelopeBytes_perform crates encode nonce
    (.saveEscalation conflict escalation createdAt writes)
  rcases disputeEscalations_saveEscalation
    (SyncEngineDb.withKey cipher (some encryptionKey) nonce) crates encode
    store conflict escalation createdAt writes with
    ⟨nothing, same⟩ | ⟨proofBytes, stored, inserted⟩
  · apply iff_of_true
    · exact ⟨envelopes, same ▸ concealed.txId, same ▸ concealed.proofBytes⟩
    · intro proofBytes stored
      exact absurd stored (nothing proofBytes)
  · constructor
    · intro after other otherStored
      obtain rfl := Except.ok.inj (stored.1.symm.trans otherStored.1)
      have txId := after.txId
      have proof := after.proofBytes
      rw [inserted, List.forall_mem_append, List.forall_mem_singleton]
        at txId proof
      exact ⟨txId.2, proof.2⟩
    · intro conceals
      obtain ⟨txId, proof⟩ := conceals proofBytes stored
      refine ⟨envelopes, ?_, ?_⟩
      · rw [inserted, List.forall_mem_append, List.forall_mem_singleton]
        exact ⟨concealed.txId, txId⟩
      · rw [inserted, List.forall_mem_append, List.forall_mem_singleton]
        exact ⟨concealed.proofBytes, proof⟩

theorem perform_iff (concealed : store.Concealed cipher encryptionKey)
    (call : StoreCall RelayChainProof) :
    (store.perform (SyncEngineDb.withKey cipher (some encryptionKey) nonce)
        crates encode call).Concealed cipher encryptionKey ↔
      call.Conceals cipher encryptionKey encode := by
  cases call with
  | saveEscalation conflict escalation createdAt writes =>
      exact concealed.saveEscalation_iff conflict escalation createdAt writes
  | _ =>
      apply iff_of_true _ trivial
      apply concealed.perform_other
      intro _ _ _ _ same
      cases same

end StoreDb.Concealed

/-- On a handle with a key, the sensitive columns hold nothing but ciphertexts
as long as no escalation is stored, and any call that stores one ends that,
but for escalations whose identifier and encoded proof are ciphertexts as they
are. -/
theorem stores_conceal_iff {RelayChainProof : Type} {cipher : Aes256Gcm}
    {crates : Crates}
    {encode : RelayChainProof → Except SyncEngineError Bytes}
    {encryptionKey : EncryptionKey} {start store : StoreDb}
    {trace : List (StoreLabel RelayChainProof)}
    (begun : start.Concealed cipher encryptionKey)
    (run : (stores cipher crates encode start).RunUnder
      (fun _ _ label => label.encryptionKey = some encryptionKey ∧
        label.call.Conceals cipher encryptionKey encode) trace store) :
    store.Concealed cipher encryptionKey ∧
      ∀ label next, label.encryptionKey = some encryptionKey →
        (stores cipher crates encode start).step store label next →
        (next.Concealed cipher encryptionKey ↔
          label.call.Conceals cipher encryptionKey encode) := by
  have concealed : store.Concealed cipher encryptionKey := by
    apply run.invariant fun _ store => store.Concealed cipher encryptionKey
    · rintro _ rfl
      exact begun
    · rintro _ before ⟨_, nonce, call⟩ _ - kept ⟨rfl, conceals⟩ rfl
      exact (kept.perform_iff call).mpr conceals
  refine ⟨concealed, ?_⟩
  rintro ⟨_, nonce, call⟩ _ rfl rfl
  exact concealed.perform_iff call

/-! An envelope, and an escalation, stored with a key. -/

theorem StoreDb.concealed_empty (cipher : Aes256Gcm)
    (encryptionKey : EncryptionKey) :
    StoreDb.empty.Concealed cipher encryptionKey where
  envelopeBytes messageId columns found := by
    simp [StoreDb.empty, Database.empty] at found
  txId row member := by cases member
  proofBytes row member := by cases member

def storeEnvelope : StoreLabel Bytes :=
  ⟨some sessionKey, sessionNonce, .enqueueTransaction sessionRecord .applied⟩

def storeEscalation : StoreLabel Bytes :=
  ⟨some sessionKey, sessionNonce, .saveEscalation EscalationDb.sampleConflict
    EscalationDb.sampleEscalation 20
    ⟨.applied, ⟨.served, .applied, .applied⟩,
      ⟨.served, .applied, .applied⟩⟩⟩

def StoreLabel.after (label : StoreLabel Bytes) : StoreDb :=
  label.perform sampleCipher sessionCrates .ok .empty

theorem stores_conceal_envelope :
    storeEnvelope.after.Concealed sampleCipher sessionKey := by
  have started : (stores sampleCipher sessionCrates .ok .empty).RunUnder
      (fun _ _ label => label.encryptionKey = some sessionKey ∧
        label.call.Conceals sampleCipher sessionKey .ok) [] .empty :=
    .start rfl
  exact (stores_conceal_iff (StoreDb.concealed_empty _ _)
    (started.snoc (l := storeEnvelope) rfl ⟨rfl, trivial⟩)).1

/-- The sample cipher yields nothing as short as an identifier. -/
theorem not_ciphertext_sample (encryptionKey : EncryptionKey)
    (bytes : Bytes32) :
    ¬ Ciphertext sampleCipher encryptionKey bytes.toVec := by
  rintro ⟨plaintext, nonce, encrypted⟩
  obtain ⟨ciphertext, sealed, same⟩ := EncryptedData.encrypt_cases encrypted
  obtain rfl := Option.some_inj.mp sealed
  have length := congrArg List.length (EncryptedData.mk.inj same)
  have nonceLength : nonce.bytes.toList.length = 12 := Vector.length_toList
  simp only [Bytes32.toVec, List.length_append] at length
  simp only [nonceLength, Vector.length_toList] at length
  omega

theorem stores_expose_escalation :
    (stores sampleCipher sessionCrates .ok .empty).Run [storeEscalation]
        storeEscalation.after ∧
      storeEscalation.encryptionKey = some sessionKey ∧
      ¬ storeEscalation.after.Concealed sampleCipher sessionKey := by
  have started : (stores sampleCipher sessionCrates Except.ok .empty).Run []
      .empty := .start rfl
  refine ⟨started.snoc (l := storeEscalation) rfl trivial, rfl, ?_⟩
  intro concealed
  have stored : storeEscalation.after.disputeEscalations =
      [StoreDb.empty.toEscalationDb.escalationRow EscalationDb.sampleConflict
        EscalationDb.sampleEscalation [1, 2] 20] := by
    decide +kernel
  exact not_ciphertext_sample sessionKey EscalationDb.sampleEscalation.txId
    (concealed.txId _ (stored ▸ List.mem_singleton_self _))

end StellarConduit
