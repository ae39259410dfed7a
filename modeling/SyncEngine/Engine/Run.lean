import SyncEngine.Data.Run
import SyncEngine.Engine.Open

namespace StellarConduit

open Data

/-! A device drives one engine at a time on one database file. Calls take
arbitrary arguments, every write of theirs may be refused or cut off by a
crash, and after a crash or a drop the file is opened again. -/

structure DatabaseFile where
  path : String
  onDisk : path ≠ ":memory:"

structure Device where
  db : Database
  engine : Option SyncEngine

inductive Call
  | openPath (scans : Scans) (read : Read)
  | drop
  | seedAccount (sourceAccount : String) (currentChainSequence : Int64)
      (write : Write)
  | queuePayment (request : PaymentRequest) (stamp : EnvelopeStamp)
      (unixNow : UInt64) (write : Write)
  | nextToDispatch (unixNow : UInt64) (write : Write)
  | markSettlement (messageId : Bytes32) (next : SettlementStatus)
      (updatedAt : UInt64) (writes : StatusWrites)

inductive Reply
  | opened (result : Except SyncEngineError Unit)
  | dropped
  | seeded (result : Except SyncEngineError Unit)
  | queued (result : Except SyncEngineError TransactionEnvelope)
  | dispatched (result : Option TransactionEnvelope)
  | marked (result : Except SyncEngineError Unit)
  | crashed

structure Label where
  call : Call
  reply : Reply

/-- A crashed call takes the engine with it. -/
def Device.settle (outcome : Outcome Database (SyncEngine × α))
    (reply : α → Reply) : Reply × Device :=
  match outcome with
  | .returned db (engine, result) => (reply result, ⟨db, some engine⟩)
  | .crashed db => (.crashed, ⟨db, none⟩)

/-- Only `open` can be called without an engine. -/
def Device.perform (crates : Crates) (file : DatabaseFile) (device : Device)
    (call : Call) : Option (Reply × Device) :=
  match device.engine, call with
  | none, .openPath scans read =>
      match SyncEngine.openPath crates file.path scans read device.db with
      | .ok engine => some (.opened (.ok ()), ⟨device.db, some engine⟩)
      | .error error => some (.opened (.error error), ⟨device.db, none⟩)
  | some _, .drop => some (.dropped, ⟨device.db, none⟩)
  | some engine, .seedAccount sourceAccount currentChainSequence write =>
      some (settle (engine.seedAccount sourceAccount currentChainSequence
        write device.db) .seeded)
  | some engine, .queuePayment request stamp unixNow write =>
      some (settle (engine.queuePayment crates request stamp unixNow write
        device.db) .queued)
  | some engine, .nextToDispatch unixNow write =>
      some (settle (engine.nextToDispatch unixNow write device.db) .dispatched)
  | some engine, .markSettlement messageId next updatedAt writes =>
      some (settle (engine.markSettlement messageId next updatedAt writes
        device.db) .marked)
  | _, _ => none

/-- A scan visits the rows that are there. -/
def Call.Admissible (call : Call) (device : Device) : Prop :=
  match call with
  | .openPath scans _ => scans.Enumerate device.db
  | _ => True

def fileEngine (crates : Crates) (file : DatabaseFile) :
    System Device Label where
  init device := device = ⟨.empty, none⟩
  step device label after := label.call.Admissible device ∧
    device.perform crates file label.call = some (label.reply, after)

/-! What a label tells about its call. -/

/-- The payment that `queue_payment` stores if it stores one. -/
def PaymentRequest.payment (crates : Crates) (request : PaymentRequest)
    (stamp : EnvelopeStamp) (unixNow : UInt64) :
    Option QueuedEnvelopeRecord :=
  (crates.extractSourceAccountAndSequence request.txXdr).toOption.map
    fun extracted => {
      envelope := EnvelopeBuilder.build
        (crates.verifyingKey request.signingKey) request.txXdr
        request.ttlHops stamp
      sourceAccount := request.sourceAccount
      sequence := extracted.2
      priority := request.priority
      enqueuedAt := unixNow }

/-- The payment that a call stores in a state: its checks pass there, and its
write takes effect. -/
def Call.stores (crates : Crates) (device : Device) (call : Call) :
    Option QueuedEnvelopeRecord :=
  match device.engine, call with
  | some engine, .queuePayment request stamp unixNow write =>
      (request.payment crates stamp unixNow).filter fun payment =>
        write.takesEffect ∧ SyncEngine.Acceptable crates engine.sequences
          request stamp unixNow payment
  | _, _ => none

namespace Label

/-- The payment whose transaction committed in this call, also if the call was
cut off after that. -/
def committed (crates : Crates) (label : Label) :
    Option QueuedEnvelopeRecord :=
  match label.call, label.reply with
  | .queuePayment request stamp unixNow _, .queued (.ok _) =>
      request.payment crates stamp unixNow
  | .queuePayment request stamp unixNow .lostAfter, .crashed =>
      request.payment crates stamp unixNow
  | _, _ => none

def dispatched (label : Label) : Option TransactionEnvelope :=
  match label.call, label.reply with
  | .nextToDispatch _ _, .dispatched result => result
  | _, _ => none

structure Silent (crates : Crates) (label : Label) : Prop where
  committed : label.committed crates = none
  dispatched : label.dispatched = none

end Label

def payments (crates : Crates) (trace : List Label) :
    List QueuedEnvelopeRecord :=
  trace.filterMap (Label.committed crates)

@[simp] theorem payments_nil (crates : Crates) : payments crates [] = [] := rfl

@[simp] theorem payments_snoc (crates : Crates) (trace : List Label)
    (label : Label) :
    payments crates (trace ++ [label]) =
      payments crates trace ++ (label.committed crates).toList := by
  simp [payments, List.filterMap_append, List.filterMap_cons]
  cases label.committed crates <;> rfl

/-! What holds of a device at every moment. -/

/-- The engine in memory fits the database: it tracks what is stored, and
holds every payment that is still queued. -/
structure SyncEngine.Sound (crates : Crates) (db : Database)
    (engine : SyncEngine) : Prop where
  unguarded : engine.queue.emergencyGuard = none
  onFile : engine.dispatchConn = .file
  tracked : ∀ messageId, (engine.settlement.status messageId).isSome =
    (db.statusText messageId.toVec).isSome
  stored : ∀ entry ∈ engine.queue.entries,
    (db.statusText entry.envelope.messageId.toVec).isSome
  complete : ∀ record,
    db.record crates record.envelope.messageId.toVec = some record →
    db.statusText record.envelope.messageId.toVec =
      some SettlementStatus.queued.asStr →
    record.queuedTx ∈ engine.queue.entries

structure Device.Sound (crates : Crates) (device : Device) : Prop where
  intact : device.db.Intact crates
  engine : ∀ engine, device.engine = some engine →
    engine.Sound crates device.db

/-- The memory a call leaves, unless it is cut off. -/
def Survives (survivor : Option SyncEngine) (engine : SyncEngine) : Prop :=
  survivor = none ∨ survivor = some engine

/-- Everything that one step can do to a device. -/
inductive Effect (crates : Crates) : Device → Label → Device → Prop
  | unchanged {device : Device} {label : Label}
      (silent : label.Silent crates) : Effect crates device label device
  | stopped {db : Database} {engine : SyncEngine} {label : Label}
      (silent : label.Silent crates) :
      Effect crates ⟨db, some engine⟩ label ⟨db, none⟩
  | opened {db : Database} {engine : SyncEngine} {scans : Scans}
      (onFile : engine.dispatchConn = .file)
      (rebuilt : engine.Reopened crates db) :
      Effect crates ⟨db, none⟩ ⟨.openPath scans .served, .opened (.ok ())⟩
        ⟨db, some engine⟩
  | seededInMemory {db : Database} {engine : SyncEngine} {account : String}
      {baseline : Int64} {reply : Reply} :
      Effect crates ⟨db, some engine⟩
        ⟨.seedAccount account baseline .refused, reply⟩
        ⟨db, some { engine with
          sequences := engine.sequences.seed account baseline }⟩
  | seeded {db : Database} {engine : SyncEngine}
      {survivor : Option SyncEngine} {account : String} {baseline : Int64}
      {write : Write} {reply : Reply}
      (survives : Survives survivor { engine with
        sequences := engine.sequences.seed account baseline })
      (effective : write.takesEffect = true) :
      Effect crates ⟨db, some engine⟩
        ⟨.seedAccount account baseline write, reply⟩
        ⟨db.replaceReservation account baseline, survivor⟩
  | rolledBack {db : Database} {engine : SyncEngine}
      {request : PaymentRequest} {stamp : EnvelopeStamp} {unixNow : UInt64}
      {write : Write} {error : SyncEngineError} :
      Effect crates ⟨db, some engine⟩
        ⟨.queuePayment request stamp unixNow write, .queued (.error error)⟩
        ⟨db, some { engine with
          sequences := SyncEngine.ensureSeeded engine.sequences
            request.sourceAccount }⟩
  | paid {db : Database} {engine : SyncEngine}
      {survivor : Option SyncEngine} {request : PaymentRequest}
      {stamp : EnvelopeStamp} {unixNow : UInt64} {write : Write}
      {reply : Reply} {payment : QueuedEnvelopeRecord}
      {envelopeBytes : Bytes} {taken : SequenceReservationManager}
      (accepts : SyncEngine.Accepts crates engine.sequences request stamp
        unixNow payment envelopeBytes taken)
      (committed : Label.committed crates
        ⟨.queuePayment request stamp unixNow write, reply⟩ = some payment)
      (survives : Survives survivor (engine.withPayment payment taken))
      (effective : write.takesEffect = true) :
      Effect crates ⟨db, some engine⟩
        ⟨.queuePayment request stamp unixNow write, reply⟩
        ⟨SyncEngine.enqueued db payment envelopeBytes, survivor⟩
  | dispatched {db : Database} {engine : SyncEngine} {head : QueuedTx}
      {rest : BinaryHeap QueuedTx} {unixNow : UInt64}
      (popped : engine.queue.heap.pop = some (head, rest)) :
      Effect crates ⟨db, some engine⟩
        ⟨.nextToDispatch unixNow .applied, .dispatched (some head.envelope)⟩
        ⟨db.replaceStatus head.envelope.messageId.toVec .propagating unixNow,
          some (engine.withoutHead head rest)⟩
  | dispatchCut {db : Database} {engine : SyncEngine} {head : QueuedTx}
      {rest : BinaryHeap QueuedTx} {unixNow : UInt64}
      (popped : engine.queue.heap.pop = some (head, rest)) :
      Effect crates ⟨db, some engine⟩
        ⟨.nextToDispatch unixNow .lostAfter, .crashed⟩
        ⟨db.replaceStatus head.envelope.messageId.toVec .propagating unixNow,
          none⟩
  | marked {db after : Database} {engine : SyncEngine}
      {survivor : Option SyncEngine} {messageId : Bytes32}
      {current next : SettlementStatus} {updatedAt : UInt64}
      {writes : StatusWrites} {reply : Reply}
      (held : engine.settlement.status messageId = some current)
      (legal : current.canTransitionTo next = true)
      (envelopes : after.queuedEnvelopes = db.queuedEnvelopes)
      (reservations : after.sequenceReservations = db.sequenceReservations)
      (status : ∀ key, after.statusText key =
        if key = messageId.toVec then some next.asStr else db.statusText key)
      (survives : survivor = none ∨ writes.replace = .applied ∧
        (writes.append = .applied ∧ survivor = some { engine with
            settlement := engine.settlement.restore messageId next } ∨
          writes.append = .refused ∧ survivor = some engine)) :
      Effect crates ⟨db, some engine⟩
        ⟨.markSettlement messageId next updatedAt writes, reply⟩
        ⟨after, survivor⟩

theorem openDispatchConnection_path (file : DatabaseFile) :
    openDispatchConnection file.path = .file :=
  if_neg file.onDisk

variable {crates : Crates} {file : DatabaseFile}

theorem SyncEngine.Accepts.payment_eq
    {sequences taken : SequenceReservationManager} {request : PaymentRequest}
    {stamp : EnvelopeStamp} {unixNow : UInt64}
    {payment : QueuedEnvelopeRecord} {envelopeBytes : Bytes}
    (accepts : SyncEngine.Accepts crates sequences request stamp unixNow
      payment envelopeBytes taken) :
    request.payment crates stamp unixNow = some payment := by
  obtain ⟨envelope, sourceAccount, sequence, priority, enqueuedAt⟩ := payment
  obtain ⟨extracted, _, rfl, rfl, rfl, rfl, _⟩ := accepts
  simp [PaymentRequest.payment, extracted, Except.toOption]

theorem SyncEngine.Accepts.stores {db : Database} {engine : SyncEngine}
    {request : PaymentRequest} {stamp : EnvelopeStamp} {unixNow : UInt64}
    {write : Write} {payment : QueuedEnvelopeRecord} {envelopeBytes : Bytes}
    {taken : SequenceReservationManager}
    (accepts : SyncEngine.Accepts crates engine.sequences request stamp unixNow
      payment envelopeBytes taken) (effective : write.takesEffect = true) :
    (Call.queuePayment request stamp unixNow write).stores crates
      ⟨db, some engine⟩ = some payment := by
  have acceptable : SyncEngine.Acceptable crates engine.sequences request
      stamp unixNow payment := ⟨envelopeBytes, taken, accepts⟩
  simp [Call.stores, accepts.payment_eq, effective, acceptable]

theorem head_of_dispatched {device after : Device} {label : Label}
    {envelope : TransactionEnvelope}
    (effect : Effect crates device label after)
    (handed : label.dispatched = some envelope) :
    ∃ engine head rest, device.engine = some engine ∧
      engine.queue.heap.pop = some (head, rest) ∧ head.envelope = envelope := by
  cases effect with
  | unchanged silent => simp [silent.dispatched] at handed
  | stopped silent => simp [silent.dispatched] at handed
  | @dispatched db engine head rest unixNow popped =>
      exact ⟨engine, head, rest, rfl, popped, Option.some_inj.mp handed⟩
  | _ => simp [Label.dispatched] at handed

/-- A step of a sound device has one of the effects listed. -/
theorem step_effect {device after : Device} {label : Label}
    (sound : device.Sound crates)
    (stepped : (fileEngine crates file).step device label after) :
    Effect crates device label after := by
  obtain ⟨db, alive⟩ := device
  obtain ⟨call, reply⟩ := label
  obtain ⟨admissible, performed⟩ := stepped
  cases alive with
  | none =>
      cases call with
      | openPath scans read =>
          cases read with
          | served =>
              obtain ⟨engine, opened, onFile, rebuilt⟩ :=
                SyncEngine.openPath_ok sound.intact file.path admissible
              simp only [Device.perform, opened, Option.some.injEq,
                Prod.mk.injEq] at performed
              obtain ⟨rfl, rfl⟩ := performed
              rw [openDispatchConnection_path] at onFile
              exact .opened onFile rebuilt
          | refused =>
              simp only [Device.perform, SyncEngine.openPath,
                Option.some.injEq, Prod.mk.injEq] at performed
              obtain ⟨rfl, rfl⟩ := performed
              exact .unchanged ⟨rfl, rfl⟩
      | _ => simp [Device.perform] at performed
  | some engine =>
      have engineSound := sound.engine engine rfl
      cases call with
      | openPath scans read => simp [Device.perform] at performed
      | drop =>
          simp only [Device.perform, Option.some.injEq, Prod.mk.injEq]
            at performed
          obtain ⟨rfl, rfl⟩ := performed
          exact .stopped ⟨rfl, rfl⟩
      | seedAccount account baseline write =>
          have settled : Device.settle
              (engine.seedAccount account baseline write db) .seeded =
                (reply, after) :=
            Option.some_inj.mp performed
          rw [SyncEngine.seedAccount_cases] at settled
          cases write with
          | applied =>
              obtain ⟨rfl, rfl⟩ := Prod.mk.inj settled
              exact .seeded (.inr rfl) rfl
          | refused =>
              obtain ⟨rfl, rfl⟩ := Prod.mk.inj settled
              exact .seededInMemory
          | lostBefore =>
              obtain ⟨rfl, rfl⟩ := Prod.mk.inj settled
              exact .stopped ⟨rfl, rfl⟩
          | lostAfter =>
              obtain ⟨rfl, rfl⟩ := Prod.mk.inj settled
              exact .seeded (.inl rfl) rfl
      | queuePayment request stamp unixNow write =>
          have settled : Device.settle
              (engine.queuePayment crates request stamp unixNow write db)
              .queued = (reply, after) :=
            Option.some_inj.mp performed
          rcases SyncEngine.queuePayment_cases crates engineSound.unguarded
              request stamp unixNow write db with
            ⟨_, error, outcome⟩ |
              ⟨payment, envelopeBytes, taken, accepts, outcome⟩
          · rw [outcome] at settled
            obtain ⟨rfl, rfl⟩ := Prod.mk.inj settled
            exact .rolledBack
          · rw [outcome] at settled
            cases write with
            | applied =>
                obtain ⟨rfl, rfl⟩ := Prod.mk.inj settled
                exact .paid accepts accepts.payment_eq (.inr rfl) rfl
            | refused =>
                obtain ⟨rfl, rfl⟩ := Prod.mk.inj settled
                exact .rolledBack
            | lostBefore =>
                obtain ⟨rfl, rfl⟩ := Prod.mk.inj settled
                exact .stopped ⟨rfl, rfl⟩
            | lostAfter =>
                obtain ⟨rfl, rfl⟩ := Prod.mk.inj settled
                exact .paid accepts accepts.payment_eq (.inl rfl) rfl
      | nextToDispatch unixNow write =>
          have settled : Device.settle
              (engine.nextToDispatch unixNow write db) .dispatched =
                (reply, after) :=
            Option.some_inj.mp performed
          rcases SyncEngine.nextToDispatch_cases engineSound.onFile unixNow
              write db with ⟨_, outcome⟩ | ⟨head, rest, popped, outcome⟩
          · rw [outcome] at settled
            obtain ⟨rfl, rfl⟩ := Prod.mk.inj settled
            exact .unchanged ⟨rfl, rfl⟩
          · rw [outcome] at settled
            cases write with
            | applied =>
                obtain ⟨rfl, rfl⟩ := Prod.mk.inj settled
                exact .dispatched popped
            | refused =>
                obtain ⟨rfl, rfl⟩ := Prod.mk.inj settled
                exact .unchanged ⟨rfl, rfl⟩
            | lostBefore =>
                obtain ⟨rfl, rfl⟩ := Prod.mk.inj settled
                exact .stopped ⟨rfl, rfl⟩
            | lostAfter =>
                obtain ⟨rfl, rfl⟩ := Prod.mk.inj settled
                exact .dispatchCut popped
      | markSettlement messageId next updatedAt writes =>
          have settled : Device.settle
              (engine.markSettlement messageId next updatedAt writes db)
              .marked = (reply, after) :=
            Option.some_inj.mp performed
          rcases SyncEngine.markSettlement_cases engine messageId next
              updatedAt writes db with
            ⟨_, error, outcome⟩ | ⟨current, held, legal, outcome⟩
          · rw [outcome] at settled
            obtain ⟨rfl, rfl⟩ := Prod.mk.inj settled
            exact .unchanged ⟨rfl, rfl⟩
          · rw [outcome] at settled
            have status := fun key => db.statusText_replaceStatus
              messageId.toVec key next updatedAt
            obtain ⟨select, replace, append⟩ := writes
            cases replace with
            | refused =>
                obtain ⟨rfl, rfl⟩ := Prod.mk.inj settled
                exact .unchanged ⟨rfl, rfl⟩
            | lostBefore =>
                obtain ⟨rfl, rfl⟩ := Prod.mk.inj settled
                exact .stopped ⟨rfl, rfl⟩
            | lostAfter =>
                obtain ⟨rfl, rfl⟩ := Prod.mk.inj settled
                exact .marked held legal rfl rfl status (.inl rfl)
            | applied =>
                cases append with
                | applied =>
                    obtain ⟨rfl, rfl⟩ := Prod.mk.inj settled
                    exact .marked held legal rfl rfl status
                      (.inr ⟨rfl, .inl ⟨rfl, rfl⟩⟩)
                | refused =>
                    obtain ⟨rfl, rfl⟩ := Prod.mk.inj settled
                    exact .marked held legal rfl rfl status
                      (.inr ⟨rfl, .inr ⟨rfl, rfl⟩⟩)
                | lostBefore =>
                    obtain ⟨rfl, rfl⟩ := Prod.mk.inj settled
                    exact .marked held legal rfl rfl status (.inl rfl)
                | lostAfter =>
                    obtain ⟨rfl, rfl⟩ := Prod.mk.inj settled
                    exact .marked held legal rfl rfl status (.inl rfl)

end StellarConduit
