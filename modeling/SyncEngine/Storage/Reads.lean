import SyncEngine.Data.Int64
import SyncEngine.Storage.Store
import SyncEngine.Storage.Sweep

namespace StellarConduit

open Data

/-! What the tables are for: maps from identifiers to records, statuses and
sequence numbers, and a list of conflicts. Every read of the store answers from
these. -/

variable {RelayChainProof : Type}

namespace SyncEngineDb

def getQueuedEnvelope (self : SyncEngineDb) (crates : Crates)
    (messageId : Bytes32) (db : Database) :
    Except SyncEngineError (Option QueuedEnvelopeRecord) :=
  match db.queuedEnvelopes.lookup messageId.toVec with
  | none => .ok none
  | some columns => (self.decodeQueuedEnvelope crates columns).map some

def loadSequenceReservation (sourceAccount : String) (db : Database) :
    Option Int64 :=
  db.sequenceReservations.lookup sourceAccount

/-- The rows of the scan, collected into a map. -/
def listAllSequenceReservations (scan : HashMap.Listing String Int64) :
    HashMap String Int64 :=
  scan.entries.foldl (fun acc row => acc.insert row.1 row.2) ∅

end SyncEngineDb

structure ConflictRecord where
  id : Int
  sourceAccount : String
  sequence : Int64
  envelopeA : Bytes32
  envelopeB : Bytes32
  detectedAt : UInt64
  resolved : Bool
  deriving DecidableEq

structure DbSummary where
  queuedEnvelopesCount : Nat
  settlementStatusCount : Nat
  sequenceReservationsCount : Nat
  conflictsCount : Nat
  unresolvedConflictsCount : Nat
  oldestQueuedAt : Option UInt64
  newestQueuedAt : Option UInt64
  deriving DecidableEq

namespace StoreDb

def conflictRecord (row : ConflictRow) : ConflictRecord where
  id := row.id
  sourceAccount := row.sourceAccount
  sequence := row.sequence
  envelopeA := Bytes32.orZero row.envelopeA
  envelopeB := Bytes32.orZero row.envelopeB
  detectedAt := row.detectedAt.toUInt64
  resolved := row.resolved ≠ 0

/-- `ORDER BY id` -/
def listAllConflicts (store : StoreDb) : List ConflictRecord :=
  (sortBy ConflictRow.id store.conflicts).map conflictRecord

/-- The rows come in the order of the scan. -/
def listUnresolvedConflicts (scan : List ConflictRow) : List Conflict :=
  (scan.filter fun row => row.resolved = 0).map fun row => {
    sourceAccount := row.sourceAccount
    sequence := row.sequence
    envelopeA := Bytes32.orZero row.envelopeA
    envelopeB := Bytes32.orZero row.envelopeB }

/-- `MIN` and `MAX` compare the signed column. `scan` is one order of the
envelopes, on which neither depends. -/
def summary (scan : HashMap.Listing Bytes QueuedEnvelopeColumns)
    (store : StoreDb) : DbSummary :=
  let enqueuedAt := scan.entries.map fun row => row.2.enqueuedAt
  { queuedEnvelopesCount := HashMap.rowCount store.db.queuedEnvelopes
    settlementStatusCount := HashMap.rowCount store.db.settlementStatus
    sequenceReservationsCount :=
      HashMap.rowCount store.db.sequenceReservations
    conflictsCount := store.conflicts.length
    unresolvedConflictsCount :=
      store.conflicts.countP fun row => row.resolved = 0
    oldestQueuedAt := enqueuedAt.min?.map Int64.toUInt64
    newestQueuedAt := enqueuedAt.max?.map Int64.toUInt64 }

end StoreDb

/-- What the store holds, without its rows. -/
structure StoreSpec where
  envelopes : HashMap Bytes QueuedEnvelopeRecord
  statuses : HashMap Bytes SettlementStatus
  reservations : HashMap String Int64
  conflicts : List (Conflict × UInt64)

namespace StoreSpec

def empty : StoreSpec := ⟨∅, ∅, ∅, []⟩

def withEnvelope (spec : StoreSpec) (record : QueuedEnvelopeRecord) :
    StoreSpec :=
  { spec with
    envelopes :=
      spec.envelopes.insert record.envelope.messageId.toVec record }

def withStatus (spec : StoreSpec) (messageId : Bytes32)
    (status : SettlementStatus) : StoreSpec :=
  { spec with statuses := spec.statuses.insert messageId.toVec status }

def withReservation (spec : StoreSpec) (sourceAccount : String)
    (lastReserved : Int64) : StoreSpec :=
  { spec with
    reservations := spec.reservations.insert sourceAccount lastReserved }

/-- Only a tracked envelope moves, and only along a legal transition. -/
def update (spec : StoreSpec) (update : StatusUpdate) : StoreSpec :=
  match spec.statuses.lookup update.messageId.toVec with
  | none => spec
  | some current =>
      if current.canTransitionTo update.toStatus then
        spec.withStatus update.messageId update.toStatus
      else spec

/-- The envelopes of a conflict, as far as `writes` get to them. -/
def disputed (spec : StoreSpec) (conflict : Conflict)
    (writes : EscalationWrites) : StoreSpec :=
  let first :=
    if writes.reachesA then
      spec.statuses.insert conflict.envelopeA.toVec .disputed
    else spec.statuses
  { spec with
    statuses :=
      if writes.reachesB then
        first.insert conflict.envelopeB.toVec .disputed
      else first }

/-- What a call means. `accepts` says which envelopes a handle can store, and
`encodes` which proofs. -/
def perform (accepts : TransactionEnvelope → Bool)
    (encodes : RelayChainProof → Bool) (spec : StoreSpec) :
    StoreCall RelayChainProof → StoreSpec
  | .enqueueEnvelope record write =>
      if accepts record.envelope ∧ write.takesEffect then
        spec.withEnvelope record
      else spec
  | .enqueueTransaction record write =>
      if accepts record.envelope ∧ write.takesEffect then
        ((spec.withReservation record.sourceAccount
          record.sequence).withEnvelope record).withStatus
            record.envelope.messageId .queued
      else spec
  | .removeQueuedEnvelope messageId write =>
      if write.takesEffect then
        { spec with envelopes := spec.envelopes.erase messageId.toVec }
      else spec
  | .setSettlementStatus messageId status _ writes =>
      if writes.replace.takesEffect then spec.withStatus messageId status
      else spec
  | .setSettlementStatusBatch updates write =>
      if write.takesEffect then updates.foldl update spec else spec
  | .persistDispatchStatus messageId _ write =>
      if write.takesEffect then spec.withStatus messageId .propagating
      else spec
  | .saveSequenceReservation sourceAccount lastReserved write =>
      if write.takesEffect then
        spec.withReservation sourceAccount lastReserved
      else spec
  | .recordConflict conflict detectedAt write =>
      if write.takesEffect then
        { spec with conflicts := spec.conflicts ++ [(conflict, detectedAt)] }
      else spec
  | .saveEscalation conflict escalation _ writes =>
      if encodes escalation.proof then spec.disputed conflict writes else spec
  | .markEscalationSubmitted _ _ => spec

/-- The rows of the conflicts, numbered from 1 in the order they were
recorded. -/
def conflictRows (conflicts : List (Conflict × UInt64)) : List ConflictRow :=
  (conflicts.zipIdx 1).map fun ((conflict, detectedAt), id) => {
    id := id
    sourceAccount := conflict.sourceAccount
    sequence := conflict.sequence
    envelopeA := conflict.envelopeA.toVec
    envelopeB := conflict.envelopeB.toVec
    detectedAt := detectedAt.toInt64
    resolved := 0 }

/-- The rows of `store` are those of `spec`, written with `key`. -/
structure Describes (cipher : Aes256Gcm) (crates : Crates)
    (key : Option EncryptionKey) (spec : StoreSpec) (store : StoreDb) :
    Prop where
  envelopes : HashMap.Related (fun record columns =>
    StoredEnvelope.Encodes cipher crates ⟨key, record⟩ columns)
    spec.envelopes store.db.queuedEnvelopes
  keyed : ∀ code record, spec.envelopes.lookup code = some record →
    code = record.envelope.messageId.toVec
  statuses : ∀ code, store.db.statusText code =
    (spec.statuses.lookup code).map SettlementStatus.asStr
  reservations : store.db.sequenceReservations = spec.reservations
  conflicts : store.conflicts = conflictRows spec.conflicts

end StoreSpec

/-! Every call keeps the description. -/

namespace SyncEngineDb

variable (self : SyncEngineDb) (crates : Crates)
  (record : QueuedEnvelopeRecord) (write : Write) (db : Database)

theorem durable_enqueueEnvelope :
    (self.enqueueEnvelope crates record.envelope record.sourceAccount
        record.sequence record.priority record.enqueuedAt write db).durable =
      match self.storedBytes crates record.envelope with
      | .error _ => db
      | .ok envelopeBytes =>
          if write.takesEffect then
            db.replaceEnvelope record.envelope.messageId.toVec
              (record.columns envelopeBytes)
          else db := by
  unfold enqueueEnvelope storedBytes
  cases crates.rmpSerde.toVec record.envelope with
  | error error => rfl
  | ok plaintext =>
      dsimp only
      cases self.encryptIfEnabled plaintext with
      | error error => rfl
      | ok envelopeBytes => cases write <;> rfl

theorem durable_enqueueTransaction :
    (self.enqueueTransaction crates record.envelope record.sourceAccount
        record.sequence record.priority record.enqueuedAt write db).durable =
      match self.storedBytes crates record.envelope with
      | .error _ => db
      | .ok envelopeBytes =>
          if write.takesEffect then
            enqueueStatements envelopeBytes record.envelope
              record.sourceAccount record.sequence record.priority
              record.enqueuedAt db
          else db := by
  unfold enqueueTransaction storedBytes
  cases crates.rmpSerde.toVec record.envelope with
  | error error => rfl
  | ok plaintext =>
      dsimp only
      cases self.encryptIfEnabled plaintext with
      | error error => rfl
      | ok envelopeBytes => cases write <;> rfl

end SyncEngineDb

theorem keptByStatuses_sequenceReservations (table : HashMap String Int64) :
    KeptByStatuses fun db => db.sequenceReservations = table where
  replaced _ _ _ _ same := same
  appended _ _ _ _ _ same := same

namespace StoreSpec

theorem length_conflictRows (conflicts : List (Conflict × UInt64)) :
    (conflictRows conflicts).length = conflicts.length := by
  simp [conflictRows]

theorem conflictRows_snoc (conflicts : List (Conflict × UInt64))
    (conflict : Conflict) (detectedAt : UInt64) :
    conflictRows (conflicts ++ [(conflict, detectedAt)]) =
      conflictRows conflicts ++ [{
        id := conflicts.length + 1
        sourceAccount := conflict.sourceAccount
        sequence := conflict.sequence
        envelopeA := conflict.envelopeA.toVec
        envelopeB := conflict.envelopeB.toVec
        detectedAt := detectedAt.toInt64
        resolved := 0 }] := by
  simp [conflictRows, List.zipIdx_append, Nat.add_comm]

theorem nextId_conflictRows (conflicts : List (Conflict × UInt64)) :
    nextId ConflictRow.id (conflictRows conflicts) =
      (conflicts.length : Int) + 1 := by
  induction conflicts using List.reverseRecOn with
  | nil => rfl
  | append_singleton conflicts entry induction =>
      obtain ⟨conflict, detectedAt⟩ := entry
      rw [nextId] at induction
      rw [conflictRows_snoc, nextId, List.foldl_append, List.foldl_cons,
        List.foldl_nil, List.length_append, List.length_singleton]
      push_cast
      omega

namespace Describes

variable {cipher : Aes256Gcm} {crates : Crates} {key : Option EncryptionKey}
  {spec : StoreSpec} {store : StoreDb}

theorem start : Describes cipher crates key .empty .empty where
  envelopes := .empty
  keyed := by simp [StoreSpec.empty]
  statuses := by
    intro code
    simp [StoreSpec.empty, StoreDb.empty, Database.empty, Database.statusText]
  reservations := rfl
  conflicts := rfl

/-- A change of the statuses alone. -/
theorem withStatuses (describes : Describes cipher crates key spec store)
    {after : StoreDb} {statuses : HashMap Bytes SettlementStatus}
    (envelopes : after.db.queuedEnvelopes = store.db.queuedEnvelopes)
    (reservations :
      after.db.sequenceReservations = store.db.sequenceReservations)
    (conflicts : after.conflicts = store.conflicts)
    (same : ∀ code, after.db.statusText code =
      (statuses.lookup code).map SettlementStatus.asStr) :
    Describes cipher crates key { spec with statuses := statuses } after where
  envelopes := envelopes ▸ describes.envelopes
  keyed := describes.keyed
  statuses := same
  reservations := reservations.trans describes.reservations
  conflicts := conflicts.trans describes.conflicts

theorem map_lookup_insert (statuses : HashMap Bytes SettlementStatus)
    (messageId : Bytes32) (status : SettlementStatus) (code : Bytes) :
    ((statuses.insert messageId.toVec status).lookup code).map
        SettlementStatus.asStr =
      if code = messageId.toVec then some status.asStr
      else (statuses.lookup code).map SettlementStatus.asStr := by
  rw [HashMap.lookup_insert_ite]
  split <;> rfl

theorem withEnvelope (describes : Describes cipher crates key spec store)
    {record : QueuedEnvelopeRecord} {nonce : EncryptionNonce}
    {envelopeBytes : Bytes}
    (stored : (SyncEngineDb.withKey cipher key nonce).storedBytes crates
      record.envelope = .ok envelopeBytes) :
    Describes cipher crates key (spec.withEnvelope record)
      { store with
        db := store.db.replaceEnvelope record.envelope.messageId.toVec
          (record.columns envelopeBytes) } where
  envelopes :=
    describes.envelopes.insert _ ⟨nonce, envelopeBytes, stored, rfl⟩
  keyed := by
    intro code held found
    rw [StoreSpec.withEnvelope, HashMap.lookup_insert_ite] at found
    split at found
    · rename_i same
      obtain rfl := Option.some_inj.mp found
      exact same
    · exact describes.keyed code held found
  statuses := describes.statuses
  reservations := describes.reservations
  conflicts := describes.conflicts

theorem withReservation (describes : Describes cipher crates key spec store)
    (sourceAccount : String) (lastReserved : Int64) :
    Describes cipher crates key
      (spec.withReservation sourceAccount lastReserved)
      { store with
        db := store.db.replaceReservation sourceAccount lastReserved } where
  envelopes := describes.envelopes
  keyed := describes.keyed
  statuses := describes.statuses
  reservations := by
    rw [Database.replaceReservation, StoreSpec.withReservation,
      describes.reservations]
  conflicts := describes.conflicts

theorem withStatus (describes : Describes cipher crates key spec store)
    (messageId : Bytes32) (status : SettlementStatus) (updatedAt : UInt64) :
    Describes cipher crates key (spec.withStatus messageId status)
      { store with
        db := store.db.replaceStatus messageId.toVec status updatedAt } := by
  refine describes.withStatuses rfl rfl rfl fun code => ?_
  rw [Database.statusText_replaceStatus, map_lookup_insert,
    describes.statuses]

theorem withHistory (describes : Describes cipher crates key spec store)
    (messageId : Bytes) (fromStatus : String) (status : SettlementStatus)
    (timestamp : UInt64) :
    Describes cipher crates key spec
      { store with
        db := store.db.appendHistory messageId fromStatus status
          timestamp } :=
  describes.withStatuses rfl rfl rfl describes.statuses

theorem setSettlementStatus (describes : Describes cipher crates key spec store)
    (messageId : Bytes32) (status : SettlementStatus) (updatedAt : UInt64)
    (writes : StatusWrites) :
    Describes cipher crates key
      (if writes.replace.takesEffect then spec.withStatus messageId status
        else spec)
      { store with
        db := (SyncEngineDb.setSettlementStatus messageId status updatedAt
          writes store.db).durable } := by
  have replaced := describes.withStatus messageId status updatedAt
  have appended := replaced.withHistory messageId.toVec
    (SyncEngineDb.selectFromStatus messageId writes.select store.db) status
    updatedAt
  obtain ⟨select, replace, append⟩ := writes
  cases replace with
  | refused => exact describes
  | lostBefore => exact describes
  | lostAfter => exact replaced
  | applied =>
      cases append with
      | applied => exact appended
      | refused => exact replaced
      | lostBefore => exact replaced
      | lostAfter => exact appended

theorem batchRounds (describes : Describes cipher crates key spec store)
    (updates : List StatusUpdate) (report : BatchUpdateReport) :
    Describes cipher crates key (updates.foldl update spec)
      { store with
        db := (updates.foldl SyncEngineDb.batchRound
          (store.db, report)).1 } := by
  induction updates generalizing spec store report with
  | nil => exact describes
  | cons next rest induction =>
      rw [List.foldl_cons, List.foldl_cons]
      have text := describes.statuses next.messageId.toVec
      cases held : spec.statuses.lookup next.messageId.toVec with
      | none =>
          rw [held] at text
          rw [SyncEngineDb.batchRound_untracked text, update, held]
          exact induction describes _
      | some current =>
          rw [held] at text
          cases legal : current.canTransitionTo next.toStatus with
          | true =>
              rw [SyncEngineDb.batchRound_applied text legal, update, held]
              simp only [legal, if_true]
              exact induction ((describes.withStatus next.messageId
                next.toStatus next.updatedAt).withHistory _ _ _ _) _
          | false =>
              rw [SyncEngineDb.batchRound_illegal text ?_, update, held]
              · simp only [legal, Bool.false_eq_true, if_false]
                exact induction describes _
              · intro other same
                obtain rfl := SettlementStatus.asStr_injective same
                exact legal

theorem saveEscalation (describes : Describes cipher crates key spec store)
    (encode : RelayChainProof → Except SyncEngineError Bytes)
    (conflict : Conflict) (escalation : DisputeEscalation RelayChainProof)
    (createdAt : UInt64) (writes : EscalationWrites) :
    Describes cipher crates key
      (spec.perform (fun _ => true) (fun proof => (encode proof).isOk)
        (.saveEscalation conflict escalation createdAt writes))
      { store with
        toEscalationDb := (EscalationDb.saveEscalation encode conflict
          escalation createdAt writes store.toEscalationDb).durable } := by
  have unchanged (same : spec.perform (fun _ => true)
        (fun proof => (encode proof).isOk)
        (.saveEscalation conflict escalation createdAt writes) = spec)
      (stopped : ∀ proofBytes, encode escalation.proof = .ok proofBytes →
        writes.insert.takesEffect = false) :
      Describes cipher crates key
        (spec.perform (fun _ => true) (fun proof => (encode proof).isOk)
          (.saveEscalation conflict escalation createdAt writes))
        { store with
          toEscalationDb := (EscalationDb.saveEscalation encode conflict
            escalation createdAt writes store.toEscalationDb).durable } := by
    rw [same, EscalationDb.saveEscalation_unchanged conflict createdAt
      store.toEscalationDb stopped]
    exact describes
  cases encoded : encode escalation.proof with
  | error error =>
      apply unchanged
      · simp [StoreSpec.perform, encoded, Except.isOk, Except.toBool]
      · simp [encoded]
  | ok proofBytes =>
      cases inserted : writes.insert.takesEffect with
      | false =>
          have notApplied : writes.insert ≠ .applied := by
            intro same
            simp [same, Write.takesEffect] at inserted
          apply unchanged
          · simp [StoreSpec.perform, StoreSpec.disputed,
              EscalationWrites.reachesA, EscalationWrites.reachesB, notApplied]
          · exact fun _ _ => inserted
      | true =>
          obtain ⟨-, texts⟩ := EscalationDb.saveEscalation_inserted conflict
            createdAt store.toEscalationDb encoded inserted
          have kept {holds : Database → Prop} (kept : KeptByStatuses holds)
              (start : holds store.db) :=
            kept.saveEscalation encode conflict escalation createdAt writes
              store.toEscalationDb start
          have meaning : spec.perform (fun _ => true)
              (fun proof => (encode proof).isOk)
              (.saveEscalation conflict escalation createdAt writes) =
                spec.disputed conflict writes := by
            simp [StoreSpec.perform, encoded, Except.isOk, Except.toBool]
          rw [meaning]
          refine describes.withStatuses
            (kept (keptByStatuses_queuedEnvelopes _) rfl)
            (kept (keptByStatuses_sequenceReservations _) rfl) rfl
            fun code => ?_
          rw [texts, describes.statuses]
          by_cases first : writes.reachesA <;>
            by_cases second : writes.reachesB <;>
            simp only [first, second, if_true, if_false, map_lookup_insert,
              true_and, false_and, or_false, false_or]
          -- both are written
          split <;> split <;> simp_all

/-- Every call on a handle with this key means what it is meant to. -/
theorem perform (describes : Describes cipher crates key spec store)
    (encode : RelayChainProof → Except SyncEngineError Bytes)
    (nonce : EncryptionNonce) (call : StoreCall RelayChainProof) :
    Describes cipher crates key
      (spec.perform (fun envelope => ((SyncEngineDb.withKey cipher key
        nonce).storedBytes crates envelope).isOk)
        (fun proof => (encode proof).isOk) call)
      (store.perform (SyncEngineDb.withKey cipher key nonce) crates encode
        call) := by
  -- a write that takes effect, or leaves the store as it is
  have written {after : StoreSpec} {statement : Database → Database}
      (done : Describes cipher crates key after
        { store with db := statement store.db }) (write : Write)
      (refusal : SyncEngineError) :
      Describes cipher crates key
        (if write.takesEffect then after else spec)
        { store with
          db := (write.run refusal (fun db => .ok (statement db))
            store.db).durable } := by
    cases write with
    | applied => exact done
    | refused => exact describes
    | lostBefore => exact describes
    | lostAfter => exact done
  cases call with
  | enqueueEnvelope record write =>
      dsimp only [StoreSpec.perform, StoreDb.perform]
      rw [SyncEngineDb.durable_enqueueEnvelope]
      obtain ⟨bytes, stored⟩ : ∃ bytes, (SyncEngineDb.withKey cipher key
          nonce).storedBytes crates record.envelope = bytes := ⟨_, rfl⟩
      cases bytes with
      | error error =>
          simpa [stored, Except.isOk, Except.toBool] using describes
      | ok envelopeBytes =>
          cases effective : write.takesEffect with
          | false => simpa [stored] using describes
          | true =>
              simpa [stored, Except.isOk, Except.toBool] using
                describes.withEnvelope stored
  | enqueueTransaction record write =>
      dsimp only [StoreSpec.perform, StoreDb.perform]
      rw [SyncEngineDb.durable_enqueueTransaction]
      obtain ⟨bytes, stored⟩ : ∃ bytes, (SyncEngineDb.withKey cipher key
          nonce).storedBytes crates record.envelope = bytes := ⟨_, rfl⟩
      cases bytes with
      | error error =>
          simpa [stored, Except.isOk, Except.toBool] using describes
      | ok envelopeBytes =>
          cases effective : write.takesEffect with
          | false => simpa [stored] using describes
          | true =>
              simp only [stored, Except.isOk, Except.toBool, and_self, if_true]
              exact ((describes.withReservation record.sourceAccount
                record.sequence).withEnvelope stored).withStatus
                  record.envelope.messageId .queued record.enqueuedAt
  | removeQueuedEnvelope messageId write =>
      have erased : Describes cipher crates key
          { spec with envelopes := spec.envelopes.erase messageId.toVec }
          { store with
            db := { store.db with
              queuedEnvelopes :=
                store.db.queuedEnvelopes.erase messageId.toVec } } := by
        refine ⟨describes.envelopes.erase _, ?_, describes.statuses,
          describes.reservations, describes.conflicts⟩
        intro code record found
        exact describes.keyed code record
          (HashMap.lookup_of_lookup_erase found)
      cases write with
      | applied => exact erased
      | refused => exact describes
      | lostBefore => exact describes
      | lostAfter => exact erased
  | setSettlementStatus messageId status updatedAt writes =>
      exact describes.setSettlementStatus messageId status updatedAt writes
  | setSettlementStatusBatch updates write =>
      have committed := describes.batchRounds updates ⟨[], []⟩
      cases write with
      | applied => exact committed
      | refused => exact describes
      | lostBefore => exact describes
      | lostAfter => exact committed
  | persistDispatchStatus messageId updatedAt write =>
      exact written (describes.withStatus messageId .propagating updatedAt)
        write _
  | saveSequenceReservation sourceAccount lastReserved write =>
      exact written (describes.withReservation sourceAccount lastReserved)
        write _
  | recordConflict conflict detectedAt write =>
      have recorded : Describes cipher crates key
          { spec with
            conflicts := spec.conflicts ++ [(conflict, detectedAt)] }
          { store with
            conflicts :=
              store.conflicts ++ [store.conflictRow conflict detectedAt] } := by
        refine ⟨describes.envelopes, describes.keyed, describes.statuses,
          describes.reservations, ?_⟩
        rw [conflictRows_snoc, StoreDb.conflictRow, describes.conflicts,
          nextId_conflictRows]
      cases write with
      | applied => exact recorded
      | refused => exact describes
      | lostBefore => exact describes
      | lostAfter => exact recorded
  | saveEscalation conflict escalation createdAt writes =>
      exact describes.saveEscalation encode conflict escalation createdAt
        writes
  | markEscalationSubmitted id write =>
      cases write <;> exact ⟨describes.envelopes, describes.keyed,
        describes.statuses, describes.reservations, describes.conflicts⟩

end Describes

end StoreSpec

/-! Every read answers from the description. -/

namespace StoreSpec

/-- The conflicts, numbered from 1 in the order they were recorded. None is
ever marked resolved. -/
def conflictRecords (spec : StoreSpec) : List ConflictRecord :=
  (spec.conflicts.zipIdx 1).map fun ((conflict, detectedAt), id) => {
    id := id
    sourceAccount := conflict.sourceAccount
    sequence := conflict.sequence
    envelopeA := conflict.envelopeA
    envelopeB := conflict.envelopeB
    detectedAt := detectedAt
    resolved := false }

/-- The record is the one under its own id. -/
def Queues (spec : StoreSpec) (record : QueuedEnvelopeRecord) : Prop :=
  spec.envelopes.lookup record.envelope.messageId.toVec = some record

/-- The counts are those of the maps. The times are of queued records, and no
queued time is below the one or above the other as a signed number. -/
structure Summarises (spec : StoreSpec) (view : DbSummary) : Prop where
  queuedEnvelopesCount :
    view.queuedEnvelopesCount = HashMap.rowCount spec.envelopes
  settlementStatusCount :
    view.settlementStatusCount = HashMap.rowCount spec.statuses
  sequenceReservationsCount :
    view.sequenceReservationsCount = HashMap.rowCount spec.reservations
  conflictsCount : view.conflictsCount = spec.conflicts.length
  unresolvedConflictsCount :
    view.unresolvedConflictsCount = spec.conflicts.length
  oldestQueuedAt : ∀ time, view.oldestQueuedAt = some time ↔
    (∃ record, spec.Queues record ∧ record.enqueuedAt = time) ∧
      ∀ record, spec.Queues record →
        time.toInt64 ≤ record.enqueuedAt.toInt64
  newestQueuedAt : ∀ time, view.newestQueuedAt = some time ↔
    (∃ record, spec.Queues record ∧ record.enqueuedAt = time) ∧
      ∀ record, spec.Queues record →
        record.enqueuedAt.toInt64 ≤ time.toInt64

/-- What each read of `store` answers on a handle with `key` when storage
serves it, whatever the nonce and the order of a scan. -/
structure Answers (cipher : Aes256Gcm) (crates : Crates)
    (key : Option EncryptionKey) (spec : StoreSpec) (store : StoreDb) :
    Prop where
  getQueuedEnvelope : ∀ nonce messageId,
    (SyncEngineDb.withKey cipher key nonce).getQueuedEnvelope crates messageId
        store.db =
      .ok (spec.envelopes.lookup messageId.toVec)
  listQueuedEnvelopes : ∀ nonce scan,
    scan.toFinmap = store.db.queuedEnvelopes →
    ∃ listing : HashMap.Listing Bytes QueuedEnvelopeRecord,
      listing.toFinmap = spec.envelopes ∧
        (SyncEngineDb.withKey cipher key nonce).listQueuedEnvelopes crates
            scan =
          .ok (listing.entries.map Sigma.snd)
  getSettlementStatus : ∀ messageId,
    SyncEngineDb.getSettlementStatus messageId store.db =
      .ok (spec.statuses.lookup messageId.toVec)
  loadSequenceReservation : ∀ sourceAccount,
    SyncEngineDb.loadSequenceReservation sourceAccount store.db =
      spec.reservations.lookup sourceAccount
  listAllSequenceReservations : ∀ scan,
    scan.toFinmap = store.db.sequenceReservations →
    SyncEngineDb.listAllSequenceReservations scan = spec.reservations
  listAllConflicts : store.listAllConflicts = spec.conflictRecords
  listUnresolvedConflicts : ∀ scan, scan.Perm store.conflicts →
    (StoreDb.listUnresolvedConflicts scan).Perm (spec.conflicts.map Prod.fst)
  summary : ∀ scan, scan.toFinmap = store.db.queuedEnvelopes →
    spec.Summarises (store.summary scan)

theorem increasing_conflictRows (conflicts : List (Conflict × UInt64)) :
    Increasing ConflictRow.id (conflictRows conflicts) := by
  induction conflicts using List.reverseRecOn with
  | nil => exact List.Pairwise.nil
  | append_singleton conflicts entry induction =>
      obtain ⟨conflict, detectedAt⟩ := entry
      rw [conflictRows_snoc]
      refine List.pairwise_append.mpr
        ⟨induction, List.pairwise_singleton _ _, ?_⟩
      intro row member last single
      obtain rfl := List.mem_singleton.mp single
      have below := lt_nextId ConflictRow.id member
      rwa [nextId_conflictRows] at below

namespace Describes

variable {cipher : Aes256Gcm} {crates : Crates} {key : Option EncryptionKey}
  {spec : StoreSpec} {store : StoreDb}

theorem mem_listed (describes : Describes cipher crates key spec store)
    {listing : HashMap.Listing Bytes QueuedEnvelopeRecord}
    (listed : listing.toFinmap = spec.envelopes)
    (record : QueuedEnvelopeRecord) :
    record ∈ listing.entries.map Sigma.snd ↔
      spec.envelopes.lookup record.envelope.messageId.toVec =
        some record := by
  have entry (code : Bytes) (held : QueuedEnvelopeRecord) :
      ⟨code, held⟩ ∈ listing.entries ↔
        spec.envelopes.lookup code = some held := by
    rw [← AList.mem_lookup_iff, Option.mem_def, ← Finmap.lookup_toFinmap,
      listed]
  constructor
  · intro member
    obtain ⟨⟨code, held⟩, inside, rfl⟩ := List.mem_map.mp member
    have found := (entry code held).mp inside
    obtain rfl := describes.keyed code held found
    exact found
  · intro found
    exact List.mem_map.mpr ⟨_, (entry _ _).mpr found, rfl⟩

theorem mem_enqueuedAt (describes : Describes cipher crates key spec store)
    {scan : HashMap.Listing Bytes QueuedEnvelopeColumns}
    (scanned : scan.toFinmap = store.db.queuedEnvelopes) (time : Int64) :
    time ∈ scan.entries.map (fun row => row.2.enqueuedAt) ↔
      ∃ record : QueuedEnvelopeRecord,
        spec.Queues record ∧ record.enqueuedAt.toInt64 = time := by
  obtain ⟨listing, listed, matched⟩ := describes.envelopes.listing scanned
  have times : scan.entries.map (fun row => row.2.enqueuedAt) =
      (listing.entries.map Sigma.snd).map fun record =>
        record.enqueuedAt.toInt64 := by
    rw [List.map_map, ← List.forall₂_eq_eq_eq, List.forall₂_map_left_iff,
      List.forall₂_map_right_iff]
    refine matched.imp fun row entry held => ?_
    obtain ⟨_, _, _, _, columns⟩ := held
    rw [columns]
    rfl
  rw [times, List.mem_map]
  exact exists_congr fun record =>
    and_congr_left' (describes.mem_listed listed record)

theorem toInt64_mem_enqueuedAt
    (describes : Describes cipher crates key spec store)
    {scan : HashMap.Listing Bytes QueuedEnvelopeColumns}
    (scanned : scan.toFinmap = store.db.queuedEnvelopes) (time : UInt64) :
    time.toInt64 ∈ scan.entries.map (fun row => row.2.enqueuedAt) ↔
      ∃ record, spec.Queues record ∧ record.enqueuedAt = time := by
  simp only [describes.mem_enqueuedAt scanned, toInt64_inj]

theorem forall_enqueuedAt (describes : Describes cipher crates key spec store)
    {scan : HashMap.Listing Bytes QueuedEnvelopeColumns}
    (scanned : scan.toFinmap = store.db.queuedEnvelopes)
    {claim : Int64 → Prop} :
    (∀ time ∈ scan.entries.map fun row => row.2.enqueuedAt, claim time) ↔
      ∀ record, spec.Queues record → claim record.enqueuedAt.toInt64 := by
  constructor
  · intro every record queued
    exact every _ ((describes.mem_enqueuedAt scanned _).mpr
      ⟨record, queued, rfl⟩)
  · intro every time listed
    obtain ⟨record, queued, rfl⟩ :=
      (describes.mem_enqueuedAt scanned time).mp listed
    exact every record queued

theorem related_statuses
    (describes : Describes cipher crates key spec store) :
    HashMap.Related (fun (status : SettlementStatus)
      (columns : SettlementStatusColumns) => columns.status = status.asStr)
      spec.statuses store.db.settlementStatus := by
  intro code
  have text := describes.statuses code
  rw [Database.statusText] at text
  cases found : spec.statuses.lookup code <;>
    cases held : store.db.settlementStatus.lookup code <;>
    simp only [found, held, Option.map_none, Option.map_some, reduceCtorEq,
      Option.some_inj] at text
  · exact .none
  · exact .some text

theorem summarises (describes : Describes cipher crates key spec store)
    {scan : HashMap.Listing Bytes QueuedEnvelopeColumns}
    (scanned : scan.toFinmap = store.db.queuedEnvelopes) :
    spec.Summarises (store.summary scan) := by
  have unresolved : ∀ row ∈ store.conflicts,
      decide (row.resolved = 0) = true := by
    rw [describes.conflicts]
    intro row member
    obtain ⟨entry, _, rfl⟩ := List.mem_map.mp member
    rfl
  have conflicts : store.conflicts.length = spec.conflicts.length := by
    rw [describes.conflicts, length_conflictRows]
  constructor
  · exact describes.envelopes.rowCount.symm
  · exact describes.related_statuses.rowCount.symm
  · exact congrArg HashMap.rowCount describes.reservations
  · exact conflicts
  · exact (List.countP_eq_length.mpr unresolved).trans conflicts
  · intro time
    rw [StoreDb.summary]
    dsimp only
    rw [map_toUInt64_eq_some, List.min?_eq_some_iff,
      describes.toInt64_mem_enqueuedAt scanned,
      describes.forall_enqueuedAt scanned]
  · intro time
    rw [StoreDb.summary]
    dsimp only
    rw [map_toUInt64_eq_some, List.max?_eq_some_iff,
      describes.toInt64_mem_enqueuedAt scanned,
      describes.forall_enqueuedAt scanned]

theorem answers (describes : Describes cipher crates key spec store) :
    Answers cipher crates key spec store where
  getQueuedEnvelope := by
    intro nonce messageId
    have both := describes.envelopes messageId.toVec
    unfold SyncEngineDb.getQueuedEnvelope
    cases stored : store.db.queuedEnvelopes.lookup messageId.toVec with
    | none =>
        rw [stored] at both
        generalize spec.envelopes.lookup messageId.toVec = found at both
        cases both
        rfl
    | some columns =>
        rw [stored] at both
        generalize spec.envelopes.lookup messageId.toVec = found at both
        cases both with
        | some encodes =>
            have decoded := StoredEnvelope.Encodes.decode encodes nonce
            dsimp only at decoded ⊢
            rw [decoded]
            rfl
  listQueuedEnvelopes := by
    intro nonce scan scanned
    obtain ⟨listing, listed, matched⟩ := describes.envelopes.listing scanned
    refine ⟨listing, listed, ?_⟩
    apply mapM_ok_of_forall₂
    exact matched.imp fun row entry held =>
      StoredEnvelope.Encodes.decode held.2 nonce
  getSettlementStatus := by
    intro messageId
    rw [SyncEngineDb.getSettlementStatus, describes.statuses]
    cases spec.statuses.lookup messageId.toVec with
    | none => rfl
    | some status => simp [Except.map]
  loadSequenceReservation := by
    intro sourceAccount
    rw [SyncEngineDb.loadSequenceReservation, describes.reservations]
  listAllSequenceReservations := by
    intro scan scanned
    rw [SyncEngineDb.listAllSequenceReservations,
      HashMap.foldl_insert_listing, scanned, describes.reservations]
  listAllConflicts := by
    rw [StoreDb.listAllConflicts, describes.conflicts,
      sortBy_eq_self (increasing_conflictRows _), conflictRows,
      conflictRecords, List.map_map]
    apply List.map_congr_left
    intro entry _
    simp [StoreDb.conflictRecord]
  listUnresolvedConflicts := by
    intro scan scanned
    rw [describes.conflicts] at scanned
    refine ((scanned.filter _).map _).trans (.of_eq ?_)
    have unresolved : (conflictRows spec.conflicts).filter
        (fun row => row.resolved = 0) = conflictRows spec.conflicts := by
      apply List.filter_eq_self.mpr
      intro row member
      obtain ⟨entry, _, rfl⟩ := List.mem_map.mp member
      rfl
    rw [unresolved, conflictRows, List.map_map,
      ← List.zipIdx_map_fst 1 spec.conflicts, List.map_map]
    simp only [List.zipIdx_map_fst]
    apply List.map_congr_left
    intro entry _
    simp
  summary := by
    intro scan scanned
    exact describes.summarises scanned

end Describes

/-- What `trace` means on handles with `key`. -/
def run (cipher : Aes256Gcm) (crates : Crates)
    (encode : RelayChainProof → Except SyncEngineError Bytes)
    (trace : List (StoreLabel RelayChainProof)) : StoreSpec :=
  trace.foldl (fun spec label =>
    spec.perform (fun envelope => ((SyncEngineDb.withKey cipher
        label.encryptionKey label.nonce).storedBytes crates envelope).isOk)
      (fun proof => (encode proof).isOk) label.call) .empty

end StoreSpec

variable {cipher : Aes256Gcm} {crates : Crates}
  {encode : RelayChainProof → Except SyncEngineError Bytes}
  {key : Option EncryptionKey} {trace : List (StoreLabel RelayChainProof)}
  {store : StoreDb}

theorem run_describes
    (run : (stores cipher crates encode .empty).RunUnder
      (fun _ _ label => label.encryptionKey = key) trace store) :
    (StoreSpec.run cipher crates encode trace).Describes cipher crates key
      store := by
  refine run.invariant (fun trace store =>
    (StoreSpec.run cipher crates encode trace).Describes cipher crates key
      store) ?_ ?_
  · rintro _ rfl
    exact StoreSpec.Describes.start
  · rintro trace before ⟨_, nonce, call⟩ _ - describes rfl rfl
    rw [StoreSpec.run, List.foldl_append]
    exact describes.perform encode nonce call

/-- Along every run of calls on handles with one key, or with none, whose
writes storage may refuse or cut off, every read answers what the calls that
took effect mean. -/
theorem stores_answer
    (run : (stores cipher crates encode .empty).RunUnder
      (fun _ _ label => label.encryptionKey = key) trace store) :
    (StoreSpec.run cipher crates encode trace).Answers cipher crates key
      store :=
  (run_describes run).answers

/-! The envelope of the sample, stored with a key. -/

theorem storeEnvelope_run :
    (stores sampleCipher sessionCrates (.ok : Bytes → _) .empty).RunUnder
      (fun _ _ label => label.encryptionKey = some sessionKey)
      [storeEnvelope] storeEnvelope.after := by
  have started : (stores sampleCipher sessionCrates (.ok : Bytes → _)
      .empty).RunUnder (fun _ _ label => label.encryptionKey = some sessionKey)
      [] .empty := .start rfl
  exact started.snoc (l := storeEnvelope) rfl rfl

theorem stores_answer_envelope :
    (SyncEngineDb.withKey sampleCipher (some sessionKey)
        sessionNonce).getQueuedEnvelope sessionCrates
        sessionEnvelope.messageId storeEnvelope.after.db =
      .ok (some sessionRecord) := by
  have held : (StoreSpec.run sampleCipher sessionCrates (.ok : Bytes → _)
      [storeEnvelope]).envelopes.lookup sessionEnvelope.messageId.toVec =
        some sessionRecord := by
    decide +kernel
  rw [(stores_answer storeEnvelope_run).getQueuedEnvelope, held]

end StellarConduit
