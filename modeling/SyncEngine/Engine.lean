import SyncEngine.Envelope.Builder
import SyncEngine.Storage.Db

namespace StellarConduit

open Data

/-- The synchronous connection of an engine: one to its database file, or an
isolated database in memory, which has no tables. -/
inductive DispatchConn
  | file
  | memory
  deriving DecidableEq, Repr

def openDispatchConnection (dbPath : String) : DispatchConn :=
  if dbPath = ":memory:" then .memory else .file

/-- The volatile part of an engine. Its asynchronous handle is always the one
of `SyncEngineDb.init`. -/
structure SyncEngine where
  queue : OutboundTxQueue
  sequences : SequenceReservationManager
  settlement : SettlementTracker
  dispatchConn : DispatchConn

/-- One order of the rows in which the two scans of `open` may find them. -/
structure Scans where
  reservations : HashMap.Listing String Int64
  envelopes : HashMap.Listing Bytes QueuedEnvelopeColumns

structure Scans.Enumerate (scans : Scans) (db : Database) : Prop where
  reservations : scans.reservations.toFinmap = db.sequenceReservations
  envelopes : scans.envelopes.toFinmap = db.queuedEnvelopes

structure PaymentRequest where
  sourceAccount : String
  signingKey : SigningKey
  txXdr : String
  priority : TxPriority
  ttlHops : UInt8
  deriving DecidableEq

namespace SyncEngine

/-- One round of the second loop of `open`. -/
def rehydrate (db : Database) (acc : OutboundTxQueue × SettlementTracker)
    (record : QueuedEnvelopeRecord) :
    Except SyncEngineError (OutboundTxQueue × SettlementTracker) := do
  let persisted ←
    SyncEngineDb.getSettlementStatus record.envelope.messageId db
  let status := persisted.getD .queued
  let settlement := acc.2.restore record.envelope.messageId status
  if status = .queued then
    return (acc.1.restoreAt record.envelope record.priority record.enqueuedAt,
      settlement)
  else
    return (acc.1, settlement)

/-- `SyncEngine::open`. Storage may refuse any of its reads. -/
def openPath (crates : Crates) (dbPath : String) (scans : Scans)
    (read : Read) (db : Database) : Except SyncEngineError SyncEngine :=
  match read with
  | .refused => .error .connectionError
  | .served => do
      let sequences := scans.reservations.entries.foldl
        (fun acc row => acc.seed row.1 row.2) .new
      let records ←
        SyncEngineDb.init.listQueuedEnvelopes crates scans.envelopes
      let (queue, settlement) ←
        records.foldlM (rehydrate db) (OutboundTxQueue.new, .new)
      return ⟨queue, sequences, settlement, openDispatchConnection dbPath⟩

/-- The manager is seeded before the durable write and stays so whatever
becomes of it. -/
def seedAccount (engine : SyncEngine) (sourceAccount : String)
    (currentChainSequence : Int64) (write : Write) (db : Database) :
    Outcome Database (SyncEngine × Except SyncEngineError Unit) :=
  let seeded := { engine with
    sequences := engine.sequences.seed sourceAccount currentChainSequence }
  (SyncEngineDb.saveSequenceReservation sourceAccount currentChainSequence
    write db).bind fun db saved => .returned db (seeded, saved)

def settlementStatus (engine : SyncEngine) (messageId : Bytes32) :
    Option SettlementStatus :=
  engine.settlement.status messageId

/-- The fallback baseline of `queue_payment`. -/
def ensureSeeded (sequences : SequenceReservationManager)
    (sourceAccount : String) : SequenceReservationManager :=
  if sequences.lastReserved sourceAccount = none then
    sequences.seed sourceAccount 0
  else
    sequences

def queuePayment (crates : Crates) (engine : SyncEngine)
    (request : PaymentRequest) (stamp : EnvelopeStamp) (unixNow : UInt64)
    (write : Write) (db : Database) :
    Outcome Database
      (SyncEngine × Except SyncEngineError TransactionEnvelope) :=
  match OfflineEnvelopeBuilder.buildAndSign crates
      (ensureSeeded engine.sequences request.sourceAccount)
      request.sourceAccount request.signingKey .classicalOnly request.txXdr
      request.ttlHops stamp with
  | (.error error, sequences) =>
      .returned db ({ engine with sequences := sequences }, .error error)
  | (.ok (hybridEnv, sequence), sequences) =>
      let envelope := hybridEnv.classicalEnvelope
      (SyncEngineDb.init.enqueueTransaction crates envelope
        request.sourceAccount sequence request.priority unixNow write db).bind
        fun db enqueued =>
          match enqueued with
          | .error error =>
              .returned db ({ engine with
                sequences := sequences.releaseIgnored request.sourceAccount
                  sequence }, .error error)
          | .ok () =>
              match engine.queue.pushAt envelope request.priority unixNow with
              | (.error error, queue) =>
                  .returned db ({ engine with
                    sequences := sequences
                    queue := queue }, .error error)
              | (.ok (), queue) =>
                  .returned db ({ engine with
                    sequences := sequences
                    queue := queue
                    settlement := engine.settlement.track
                      envelope.messageId }, .ok envelope)

def persistDispatchStatus (engine : SyncEngine) (messageId : Bytes32)
    (updatedAt : UInt64) (write : Write) (db : Database) :
    Outcome Database (Except SyncEngineError Unit) :=
  write.run .sqliteError (fun db =>
    match engine.dispatchConn with
    | .file => .ok (db.replaceStatus messageId.toVec .propagating updatedAt)
    | .memory => .error .sqliteError) db

def nextToDispatch (engine : SyncEngine) (unixNow : UInt64) (write : Write)
    (db : Database) :
    Outcome Database (SyncEngine × Option TransactionEnvelope) :=
  match engine.queue.peek with
  | none => .returned db (engine, none)
  | some head =>
      (engine.persistDispatchStatus head.messageId unixNow write db).bind
        fun db persisted =>
          match persisted with
          | .error _ => .returned db (engine, none)
          | .ok () =>
              match engine.queue.pop with
              -- the `expect` of the source, which ends the process
              | none => .crashed db
              | some (envelope, queue) =>
                  .returned db ({ engine with
                    queue := queue
                    settlement := engine.settlement.transitionIgnored
                      envelope.messageId .propagating }, some envelope)

def markSettlement (engine : SyncEngine) (messageId : Bytes32)
    (next : SettlementStatus) (updatedAt : UInt64) (writes : StatusWrites)
    (db : Database) :
    Outcome Database (SyncEngine × Except SyncEngineError Unit) :=
  match engine.settlement.status messageId with
  | none =>
      .returned db (engine, .error (.envelopeNotFound (hexEncode messageId)))
  | some current =>
      if current.canTransitionTo next = false then
        .returned db (engine,
          .error (.invalidStateTransition current.asStr next.asStr))
      else
        (SyncEngineDb.setSettlementStatus messageId next updatedAt writes
          db).bind fun db persisted =>
            match persisted with
            | .error error => .returned db (engine, .error error)
            | .ok () =>
                match engine.settlement.transition messageId next with
                | .error error => .returned db (engine, .error error)
                | .ok settlement =>
                    .returned db ({ engine with settlement := settlement },
                      .ok ())

/-! What each call can do. -/

theorem seedAccount_cases (engine : SyncEngine) (sourceAccount : String)
    (currentChainSequence : Int64) (write : Write) (db : Database) :
    engine.seedAccount sourceAccount currentChainSequence write db =
      (let seeded := { engine with
        sequences :=
          engine.sequences.seed sourceAccount currentChainSequence }
      let replaced := db.replaceReservation sourceAccount currentChainSequence
      match write with
      | .applied => .returned replaced (seeded, .ok ())
      | .refused => .returned db (seeded, .error .connectionError)
      | .lostBefore => .crashed db
      | .lostAfter => .crashed replaced) := by
  cases write <;> rfl

/-- The payment that a call is about once its checks have passed: `payment`
encodes to `envelopeBytes` and takes the next number of its account, which
leaves the manager `taken`. -/
structure Accepts (crates : Crates) (sequences : SequenceReservationManager)
    (request : PaymentRequest) (stamp : EnvelopeStamp) (unixNow : UInt64)
    (payment : QueuedEnvelopeRecord) (envelopeBytes : Bytes)
    (taken : SequenceReservationManager) : Prop where
  extracted : crates.extractSourceAccountAndSequence request.txXdr =
    .ok (request.sourceAccount, payment.sequence)
  reserved : (ensureSeeded sequences request.sourceAccount).reserveNext
    request.sourceAccount = .ok (payment.sequence, taken)
  envelope : payment.envelope = EnvelopeBuilder.build
    (crates.verifyingKey request.signingKey) request.txXdr request.ttlHops
    stamp
  sourceAccount : payment.sourceAccount = request.sourceAccount
  priority : payment.priority = request.priority
  enqueuedAt : payment.enqueuedAt = unixNow
  encoded : crates.rmpSerde.toVec payment.envelope = .ok envelopeBytes

def Acceptable (crates : Crates) (sequences : SequenceReservationManager)
    (request : PaymentRequest) (stamp : EnvelopeStamp) (unixNow : UInt64)
    (payment : QueuedEnvelopeRecord) : Prop :=
  ∃ envelopeBytes taken, Accepts crates sequences request stamp unixNow
    payment envelopeBytes taken

instance (crates : Crates) (sequences : SequenceReservationManager)
    (request : PaymentRequest) (stamp : EnvelopeStamp) (unixNow : UInt64)
    (payment : QueuedEnvelopeRecord) :
    Decidable (Acceptable crates sequences request stamp unixNow payment) :=
  decidable_of_iff
    (crates.extractSourceAccountAndSequence request.txXdr =
        .ok (request.sourceAccount, payment.sequence) ∧
      ((ensureSeeded sequences request.sourceAccount).reserveNext
        request.sourceAccount).toOption.map Prod.fst =
          some payment.sequence ∧
      payment = ⟨EnvelopeBuilder.build
          (crates.verifyingKey request.signingKey) request.txXdr
          request.ttlHops stamp,
        request.sourceAccount, payment.sequence, request.priority, unixNow⟩ ∧
      (crates.rmpSerde.toVec payment.envelope).toOption.isSome = true) <| by
    obtain ⟨envelope, sourceAccount, sequence, priority, enqueuedAt⟩ := payment
    constructor
    · rintro ⟨extracted, reserved, same, encodes⟩
      obtain ⟨rfl, rfl, -, rfl, rfl⟩ := QueuedEnvelopeRecord.mk.inj same
      cases reservation : (ensureSeeded sequences
          request.sourceAccount).reserveNext request.sourceAccount with
      | error error => simp [reservation, Except.toOption] at reserved
      | ok pair =>
          cases encoded : crates.rmpSerde.toVec (EnvelopeBuilder.build
              (crates.verifyingKey request.signingKey) request.txXdr
              request.ttlHops stamp) with
          | error error => simp [encoded, Except.toOption] at encodes
          | ok envelopeBytes =>
              rw [reservation] at reserved
              obtain rfl : pair.1 = sequence := Option.some_inj.mp reserved
              exact ⟨envelopeBytes, pair.2, extracted, reservation, rfl, rfl,
                rfl, rfl, encoded⟩
    · rintro ⟨envelopeBytes, taken, accepts⟩
      obtain ⟨extracted, reserved, rfl, rfl, rfl, rfl, encoded⟩ := accepts
      simp [extracted, reserved, encoded, Except.toOption]

def enqueued (db : Database) (payment : QueuedEnvelopeRecord)
    (envelopeBytes : Bytes) : Database :=
  SyncEngineDb.enqueueStatements envelopeBytes payment.envelope
    payment.sourceAccount payment.sequence payment.priority payment.enqueuedAt
    db

def withPayment (engine : SyncEngine) (payment : QueuedEnvelopeRecord)
    (taken : SequenceReservationManager) : SyncEngine :=
  { engine with
    sequences := taken
    queue := { engine.queue with
      heap := engine.queue.heap.push payment.queuedTx }
    settlement := engine.settlement.track payment.envelope.messageId }

/-- `queue_payment` fails one of its checks, or runs the transaction of one
payment. -/
theorem queuePayment_cases (crates : Crates) {engine : SyncEngine}
    (unguarded : engine.queue.emergencyGuard = none)
    (request : PaymentRequest) (stamp : EnvelopeStamp) (unixNow : UInt64)
    (write : Write) (db : Database) :
    let outcome :=
      queuePayment crates engine request stamp unixNow write db
    let seeded := { engine with
      sequences := ensureSeeded engine.sequences request.sourceAccount }
    ((∀ payment, ¬ Acceptable crates engine.sequences request stamp unixNow
        payment) ∧
      ∃ error, outcome = .returned db (seeded, .error error)) ∨
    ∃ payment envelopeBytes taken,
      Accepts crates engine.sequences request stamp unixNow payment
        envelopeBytes taken ∧
      outcome =
        (let committed := enqueued db payment envelopeBytes
        match write with
        | .applied => .returned committed
            (engine.withPayment payment taken, .ok payment.envelope)
        | .refused => .returned db (seeded, .error .connectionError)
        | .lostBefore => .crashed db
        | .lostAfter => .crashed committed) := by
  intro outcome seeded
  simp only [outcome, queuePayment]
  split
  · rename_i error sequences failed
    obtain rfl := OfflineEnvelopeBuilder.buildAndSign_error failed
    refine Or.inl ⟨?_, error, rfl⟩
    rintro payment ⟨envelopeBytes, taken, accepts⟩
    rw [OfflineEnvelopeBuilder.buildAndSign_of_reserved accepts.extracted
      accepts.reserved] at failed
    simp at failed
  · rename_i hybridEnv sequence taken built
    obtain ⟨extracted, reserved, envelope⟩ :=
      OfflineEnvelopeBuilder.buildAndSign_ok built
    have rolledBack :=
      SequenceReservationManager.releaseIgnored_reserveNext reserved
    cases encoded : crates.rmpSerde.toVec hybridEnv.classicalEnvelope with
    | error error =>
        refine Or.inl ⟨?_, error, ?_⟩
        · rintro payment ⟨envelopeBytes, taken, accepts⟩
          have encodes := accepts.encoded
          rw [accepts.envelope, ← envelope, encoded] at encodes
          simp at encodes
        · simp [SyncEngineDb.enqueueTransaction, encoded, rolledBack, seeded]
    | ok envelopeBytes =>
        let payment : QueuedEnvelopeRecord := ⟨hybridEnv.classicalEnvelope,
          request.sourceAccount, sequence, request.priority, unixNow⟩
        have accepts : Accepts crates engine.sequences request stamp unixNow
            payment envelopeBytes taken :=
          ⟨extracted, reserved, envelope, rfl, rfl, rfl, encoded⟩
        have pushed := OutboundTxQueue.pushAt_unguarded unguarded
          hybridEnv.classicalEnvelope request.priority unixNow
        refine Or.inr ⟨payment, envelopeBytes, taken, accepts, ?_⟩
        cases write <;>
          simp [SyncEngineDb.enqueueTransaction, SyncEngineDb.init, encoded,
            Write.run, pushed, rolledBack, enqueued, withPayment,
            QueuedEnvelopeRecord.queuedTx, payment, seeded]

def withoutHead (engine : SyncEngine) (head : QueuedTx)
    (rest : BinaryHeap QueuedTx) : SyncEngine :=
  { engine with
    queue := { engine.queue with heap := rest }
    settlement := engine.settlement.transitionIgnored
      head.envelope.messageId .propagating }

/-- `next_to_dispatch` finds an empty queue, or writes the marker of the head
and pops it. -/
theorem nextToDispatch_cases {engine : SyncEngine}
    (onFile : engine.dispatchConn = .file) (unixNow : UInt64) (write : Write)
    (db : Database) :
    let outcome := engine.nextToDispatch unixNow write db
    (engine.queue.entries = [] ∧ outcome = .returned db (engine, none)) ∨
    ∃ head rest, engine.queue.heap.pop = some (head, rest) ∧
      outcome =
        (let marked := db.replaceStatus head.envelope.messageId.toVec
          .propagating unixNow
        match write with
        | .applied =>
            .returned marked (engine.withoutHead head rest, some head.envelope)
        | .refused => .returned db (engine, none)
        | .lostBefore => .crashed db
        | .lostAfter => .crashed marked) := by
  intro outcome
  have peeked := engine.queue.peek_eq_pop
  cases popped : engine.queue.heap.pop with
  | none =>
      refine Or.inl ⟨BinaryHeap.pop_eq_none popped, ?_⟩
      simp [outcome, nextToDispatch, peeked, popped]
  | some pair =>
      obtain ⟨head, rest⟩ := pair
      refine Or.inr ⟨head, rest, rfl, ?_⟩
      cases write <;>
        simp [outcome, nextToDispatch, peeked, popped, persistDispatchStatus,
          onFile, Write.run, OutboundTxQueue.pop, withoutHead]

/-- `mark_settlement` rejects the transition, or performs its two writes and
advances the tracker if both were answered. -/
theorem markSettlement_cases (engine : SyncEngine) (messageId : Bytes32)
    (next : SettlementStatus) (updatedAt : UInt64) (writes : StatusWrites)
    (db : Database) :
    let outcome := engine.markSettlement messageId next updatedAt writes db
    ((∀ current, engine.settlement.status messageId = some current →
        current.canTransitionTo next = false) ∧
      ∃ error, outcome = .returned db (engine, .error error)) ∨
    ∃ current, engine.settlement.status messageId = some current ∧
      current.canTransitionTo next = true ∧
      outcome =
        (let replaced := db.replaceStatus messageId.toVec next updatedAt
        let appended := replaced.appendHistory messageId.toVec
          (SyncEngineDb.selectFromStatus messageId writes.select db) next
          updatedAt
        let marked := { engine with
          settlement := engine.settlement.restore messageId next }
        match writes.replace, writes.append with
        | .applied, .applied => .returned appended (marked, .ok ())
        | .applied, .refused =>
            .returned replaced (engine, .error .connectionError)
        | .applied, .lostBefore => .crashed replaced
        | .applied, .lostAfter => .crashed appended
        | .refused, _ => .returned db (engine, .error .connectionError)
        | .lostBefore, _ => .crashed db
        | .lostAfter, _ => .crashed replaced) := by
  intro outcome
  simp only [outcome, markSettlement]
  split
  · rename_i unknown
    exact Or.inl ⟨by simp [unknown], _, rfl⟩
  · rename_i current held
    cases legal : current.canTransitionTo next with
    | false => exact Or.inl ⟨by simp [held, legal], _, rfl⟩
    | true =>
        refine Or.inr ⟨current, held, legal, ?_⟩
        have advanced := SettlementTracker.transition_of_legal held legal
        obtain ⟨select, replace, append⟩ := writes
        cases replace <;> cases append <;>
          simp [SyncEngineDb.setSettlementStatus, Write.run, advanced]

end SyncEngine

end StellarConduit
