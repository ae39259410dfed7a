import SyncEngine.Data.Durable
import SyncEngine.Data.HashMap
import SyncEngine.Envelope.Types
import SyncEngine.Queue.Priority
import SyncEngine.Settlement.Tracker

namespace StellarConduit

open Data

/-! The tables of the database, without the ones the engine does not write.
A table with a declared primary key is a map from that key to the remaining
columns, so `INSERT OR REPLACE` is insertion. -/

structure QueuedEnvelopeColumns where
  sourceAccount : String
  sequence : Int64
  priority : Int64
  enqueuedAt : Int64
  envelopeBytes : Bytes
  deriving DecidableEq

structure SettlementStatusColumns where
  status : String
  updatedAt : Int64
  deriving DecidableEq

structure SettlementHistoryRow where
  id : Int
  messageId : Bytes
  fromStatus : String
  toStatus : String
  timestamp : Int64
  deriving DecidableEq

structure Database where
  queuedEnvelopes : HashMap Bytes QueuedEnvelopeColumns
  settlementStatus : HashMap Bytes SettlementStatusColumns
  sequenceReservations : HashMap String Int64
  /-- In the order of insertion, which is that of the ids. -/
  settlementHistory : List SettlementHistoryRow
  deriving DecidableEq

namespace Database

def empty : Database := ⟨∅, ∅, ∅, []⟩

def replaceReservation (db : Database) (sourceAccount : String)
    (lastReserved : Int64) : Database :=
  { db with
    sequenceReservations :=
      db.sequenceReservations.insert sourceAccount lastReserved }

def replaceEnvelope (db : Database) (messageId : Bytes)
    (columns : QueuedEnvelopeColumns) : Database :=
  { db with queuedEnvelopes := db.queuedEnvelopes.insert messageId columns }

def replaceStatus (db : Database) (messageId : Bytes)
    (status : SettlementStatus) (updatedAt : UInt64) : Database :=
  { db with
    settlementStatus := db.settlementStatus.insert messageId
      ⟨status.asStr, updatedAt.toInt64⟩ }

/-- The next `AUTOINCREMENT` id. No history row is ever deleted, so the largest
id ever used is the largest one present. -/
def nextHistoryId (db : Database) : Int :=
  db.settlementHistory.foldl (fun largest row => max largest row.id) 0 + 1

def appendHistory (db : Database) (messageId : Bytes) (fromStatus : String)
    (toStatus : SettlementStatus) (timestamp : UInt64) : Database :=
  { db with
    settlementHistory := db.settlementHistory ++ [{
      id := db.nextHistoryId
      messageId := messageId
      fromStatus := fromStatus
      toStatus := toStatus.asStr
      timestamp := timestamp.toInt64 }] }

def statusText (db : Database) (messageId : Bytes) : Option String :=
  (db.settlementStatus.lookup messageId).map SettlementStatusColumns.status

theorem statusText_replaceStatus (db : Database) (messageId other : Bytes)
    (status : SettlementStatus) (updatedAt : UInt64) :
    (db.replaceStatus messageId status updatedAt).statusText other =
      if other = messageId then some status.asStr
      else db.statusText other := by
  rw [statusText, replaceStatus, HashMap.lookup_insert_ite]
  split
  · rfl
  · rfl

@[simp] theorem statusText_replaceReservation (db : Database)
    (sourceAccount : String) (lastReserved : Int64) (messageId : Bytes) :
    (db.replaceReservation sourceAccount lastReserved).statusText messageId =
      db.statusText messageId := rfl

@[simp] theorem statusText_replaceEnvelope (db : Database) (key : Bytes)
    (columns : QueuedEnvelopeColumns) (messageId : Bytes) :
    (db.replaceEnvelope key columns).statusText messageId =
      db.statusText messageId := rfl

@[simp] theorem statusText_appendHistory (db : Database) (key : Bytes)
    (fromStatus : String) (toStatus : SettlementStatus) (timestamp : UInt64)
    (messageId : Bytes) :
    (db.appendHistory key fromStatus toStatus timestamp).statusText messageId =
      db.statusText messageId := rfl

end Database

/-- No row that says `settled` is replaced by another. -/
def SettledKept (before after : Database) : Prop :=
  ∀ key, before.statusText key = some SettlementStatus.settled.asStr →
    after.statusText key = some SettlementStatus.settled.asStr

/-- An open database handle, as far as calls see it: what it does to a
sensitive column on the way in and on the way out. -/
structure SyncEngineDb where
  encryptIfEnabled : Bytes → Except SyncEngineError Bytes
  decryptIfNeeded : Bytes → Except SyncEngineError Bytes

structure QueuedEnvelopeRecord where
  envelope : TransactionEnvelope
  sourceAccount : String
  sequence : Int64
  priority : TxPriority
  enqueuedAt : UInt64
  deriving DecidableEq

def QueuedEnvelopeRecord.queuedTx (record : QueuedEnvelopeRecord) : QueuedTx :=
  ⟨record.priority, record.enqueuedAt, record.envelope⟩

/-- How the three statements of `set_settlement_status` end. They do not share
a transaction. -/
structure StatusWrites where
  select : Read
  replace : Write
  append : Write
  deriving DecidableEq

namespace SyncEngineDb

/-- `SyncEngineDb::init`, which sets no encryption key. -/
def init : SyncEngineDb where
  encryptIfEnabled := .ok
  decryptIfNeeded := .ok

/-- The single transaction of `enqueue_transaction`. -/
def enqueueStatements (envelopeBytes : Bytes) (envelope : TransactionEnvelope)
    (sourceAccount : String) (sequence : Int64) (priority : TxPriority)
    (enqueuedAt : UInt64) (db : Database) : Database :=
  ((db.replaceReservation sourceAccount sequence).replaceEnvelope
    envelope.messageId.toVec {
      sourceAccount := sourceAccount
      sequence := sequence
      priority := priority.toI64
      enqueuedAt := enqueuedAt.toInt64
      envelopeBytes := envelopeBytes }).replaceStatus
    envelope.messageId.toVec .queued enqueuedAt

def enqueueTransaction (self : SyncEngineDb) (crates : Crates)
    (envelope : TransactionEnvelope) (sourceAccount : String)
    (sequence : Int64) (priority : TxPriority) (enqueuedAt : UInt64)
    (write : Write) (db : Database) :
    Outcome Database (Except SyncEngineError Unit) :=
  match crates.rmpSerde.toVec envelope with
  | .error error => .returned db (.error error)
  | .ok plaintext =>
      match self.encryptIfEnabled plaintext with
      | .error error => .returned db (.error error)
      | .ok envelopeBytes =>
          write.run .connectionError (fun db => .ok (enqueueStatements
            envelopeBytes envelope sourceAccount sequence priority enqueuedAt
            db)) db

def decodeQueuedEnvelope (self : SyncEngineDb) (crates : Crates)
    (columns : QueuedEnvelopeColumns) :
    Except SyncEngineError QueuedEnvelopeRecord := do
  let envelopeBytes ← self.decryptIfNeeded columns.envelopeBytes
  let envelope ← crates.rmpSerde.fromSlice envelopeBytes
  let priority ← TxPriority.tryFromI64 columns.priority
  return {
    envelope := envelope
    sourceAccount := columns.sourceAccount
    sequence := columns.sequence
    priority := priority
    enqueuedAt := columns.enqueuedAt.toUInt64 }

/-- The rows come in the order of the scan, which the statement leaves open. -/
def listQueuedEnvelopes (self : SyncEngineDb) (crates : Crates)
    (scan : HashMap.Listing Bytes QueuedEnvelopeColumns) :
    Except SyncEngineError (List QueuedEnvelopeRecord) :=
  scan.entries.mapM fun row => self.decodeQueuedEnvelope crates row.2

/-- A row that cannot be read counts as an empty `from_status`, as one that is
not there does. -/
def selectFromStatus (messageId : Bytes32) (select : Read) (db : Database) :
    String :=
  match select with
  | .served => (db.statusText messageId.toVec).getD ""
  | .refused => ""

def setSettlementStatus (messageId : Bytes32) (status : SettlementStatus)
    (updatedAt : UInt64) (writes : StatusWrites) (db : Database) :
    Outcome Database (Except SyncEngineError Unit) :=
  let fromStatus := selectFromStatus messageId writes.select db
  (writes.replace.run .connectionError (fun db =>
      .ok (db.replaceStatus messageId.toVec status updatedAt)) db).bind
    fun db replaced =>
      match replaced with
      | .error error => .returned db (.error error)
      | .ok () =>
          writes.append.run .connectionError (fun db =>
            .ok (db.appendHistory messageId.toVec fromStatus status
              updatedAt)) db

/-- What a write of one status leaves in the table, however it ends. -/
theorem statusText_setSettlementStatus (messageId : Bytes32)
    (status : SettlementStatus) (updatedAt : UInt64) (writes : StatusWrites)
    (db : Database) (key : Bytes) :
    (setSettlementStatus messageId status updatedAt writes
        db).durable.statusText key =
      if writes.replace.takesEffect = true ∧ key = messageId.toVec then
        some status.asStr
      else db.statusText key := by
  obtain ⟨select, replace, append⟩ := writes
  cases replace <;> cases append <;>
    simp [setSettlementStatus, Write.run, Write.takesEffect,
      Database.statusText_replaceStatus]

/-- A write of one status succeeds when both of its writes do, and a caller
then goes on. -/
theorem setSettlementStatus_continues (messageId : Bytes32)
    (status : SettlementStatus) (updatedAt : UInt64) (writes : StatusWrites)
    (db : Database) :
    let outcome := setSettlementStatus messageId status updatedAt writes db
    if writes.replace = .applied ∧ writes.append = .applied then
      outcome = .returned outcome.durable (.ok ())
    else
      outcome = .crashed outcome.durable ∨
        outcome = .returned outcome.durable (.error .connectionError) := by
  obtain ⟨select, replace, append⟩ := writes
  cases replace <;> cases append <;> simp [setSettlementStatus, Write.run]

def getSettlementStatus (messageId : Bytes32) (db : Database) :
    Except SyncEngineError (Option SettlementStatus) :=
  match db.statusText messageId.toVec with
  | none => .ok none
  | some text => (SettlementStatus.fromStr text).map some

def saveSequenceReservation (sourceAccount : String) (lastReserved : Int64)
    (write : Write) (db : Database) :
    Outcome Database (Except SyncEngineError Unit) :=
  write.run .connectionError (fun db =>
    .ok (db.replaceReservation sourceAccount lastReserved)) db

end SyncEngineDb

end StellarConduit
