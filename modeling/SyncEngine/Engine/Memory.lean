import SyncEngine.Data.Machine
import SyncEngine.Engine.Replay

namespace StellarConduit

open Data

/-! The two connections of an engine. On a file they reach one database; each
connection to `:memory:` is a database of its own. A database has no tables
until something creates them, and `none` stands for one without. -/

inductive Connections
  | shared (db : Option Database)
  | isolated (db dispatchDb : Option Database)
  deriving DecidableEq

namespace Connections

def execute (statement : Database → Database) :
    Option Database → Except SyncEngineError (Option Database)
  | none => .error .sqliteError
  | some db => .ok (some (statement db))

/-- A statement on the asynchronous connection. -/
def executeAsync (statement : Database → Database) :
    Connections → Except SyncEngineError Connections
  | .shared db => (execute statement db).map .shared
  | .isolated db dispatchDb =>
      (execute statement db).map fun db => .isolated db dispatchDb

/-- A statement on the connection of `persist_dispatch_status`. -/
def executeDispatch (statement : Database → Database) :
    Connections → Except SyncEngineError Connections
  | .shared db => (execute statement db).map .shared
  | .isolated db dispatchDb =>
      (execute statement dispatchDb).map fun dispatchDb =>
        .isolated db dispatchDb

/-- `open` on a path that holds no database yet: `SyncEngineDb::init` creates
the tables on its own connection, and the other one is opened beside it. -/
def openFresh (dbPath : String) : Connections :=
  if dbPath = ":memory:" then .isolated (some .empty) none
  else .shared (some .empty)

/-- What an engine with the connection `conn` and the tables `db` holds. -/
def of (conn : DispatchConn) (db : Database) : Connections :=
  match conn with
  | .file => .shared (some db)
  | .memory => .isolated (some db) none

theorem openFresh_eq (dbPath : String) :
    openFresh dbPath = of (openDispatchConnection dbPath) .empty := by
  unfold openFresh openDispatchConnection
  split
  · rfl
  · rfl

theorem run_executeAsync (conn : DispatchConn) (write : Write)
    (refusal : SyncEngineError) (statement : Database → Database)
    (db : Database) :
    write.run refusal (executeAsync statement) (of conn db) =
      (write.run refusal (fun db => .ok (statement db)) db).within
        (of conn) := by
  cases conn <;> cases write <;> rfl

/-- The marker of a dispatch goes where the connection of the engine leads,
and on a database without tables it goes nowhere. -/
theorem run_executeDispatch (engine : SyncEngine) (messageId : Bytes32)
    (updatedAt : UInt64) (write : Write) (db : Database) :
    write.run .sqliteError (executeDispatch fun db =>
        db.replaceStatus messageId.toVec .propagating updatedAt)
        (of engine.dispatchConn db) =
      (engine.persistDispatchStatus messageId updatedAt write db).within
        (of engine.dispatchConn) := by
  unfold SyncEngine.persistDispatchStatus
  cases engine.dispatchConn <;> cases write <;> rfl

end Connections

/-! One engine from its first `open` on, with every write served. -/

inductive LiveCall
  | seedAccount (sourceAccount : String) (currentChainSequence : Int64)
  | queuePayment (request : PaymentRequest) (stamp : EnvelopeStamp)
      (unixNow : UInt64)
  | nextToDispatch (unixNow : UInt64)
  | markSettlement (messageId : Bytes32) (next : SettlementStatus)
      (updatedAt : UInt64)
  | settlementStatus (messageId : Bytes32)

inductive LiveReply
  | seeded (result : Except SyncEngineError Unit)
  | queued (result : Except SyncEngineError TransactionEnvelope)
  | dispatched (result : Option TransactionEnvelope)
  | marked (result : Except SyncEngineError Unit)
  | status (result : Option SettlementStatus)
  | stopped
  deriving DecidableEq

structure LiveEngine where
  engine : SyncEngine
  db : Database

namespace LiveEngine

/-- `open` where there is no database yet. No scan finds a row. -/
def openFresh (crates : Crates) (dbPath : String) :
    Except SyncEngineError LiveEngine :=
  (SyncEngine.openPath crates dbPath ⟨∅, ∅⟩ .served .empty).map
    fun engine => ⟨engine, .empty⟩

def settle (live : LiveEngine) (outcome : Outcome Database (SyncEngine × α))
    (reply : α → LiveReply) : LiveEngine × LiveReply :=
  match outcome with
  | .returned db (engine, result) => (⟨engine, db⟩, reply result)
  | .crashed db => (⟨live.engine, db⟩, .stopped)

def perform (crates : Crates) (live : LiveEngine) (call : LiveCall) :
    LiveEngine × LiveReply :=
  match call with
  | .seedAccount sourceAccount currentChainSequence =>
      live.settle (live.engine.seedAccount sourceAccount
        currentChainSequence .applied live.db) .seeded
  | .queuePayment request stamp unixNow =>
      live.settle (live.engine.queuePayment crates request stamp unixNow
        .applied live.db) .queued
  | .nextToDispatch unixNow =>
      live.settle (live.engine.nextToDispatch unixNow .applied
        live.db) .dispatched
  | .markSettlement messageId next updatedAt =>
      live.settle (live.engine.markSettlement messageId next updatedAt
        ⟨.served, .applied, .applied⟩ live.db) .marked
  | .settlementStatus messageId =>
      (live, .status (live.engine.settlementStatus messageId))

def step (crates : Crates) (live : LiveEngine) (call : LiveCall) :
    LiveEngine :=
  (live.perform crates call).1

def reply (crates : Crates) (live : LiveEngine) (call : LiveCall) :
    LiveReply :=
  (live.perform crates call).2

def replies (crates : Crates) (live : LiveEngine)
    (calls : List LiveCall) : List LiveReply :=
  Machine.answers (step crates) (reply crates) live calls

/-- The call is a dispatch from a queue that holds an envelope. -/
def Awaited (live : LiveEngine) (call : LiveCall) : Prop :=
  ∃ unixNow, call = .nextToDispatch unixNow ∧
    live.engine.queue.entries ≠ []

/-- `next_to_dispatch` hands out an envelope whenever the queue holds one. -/
def Delivers (crates : Crates) (live : LiveEngine)
    (calls : List LiveCall) : Prop :=
  Machine.Always (step crates) (fun live call => live.Awaited call →
    ∃ envelope, live.reply crates call = .dispatched (some envelope))
    live calls

/-- No dispatch finds an envelope in the queue. -/
def NoneAwaited (crates : Crates) (live : LiveEngine)
    (calls : List LiveCall) : Prop :=
  Machine.Always (step crates) (fun live call => ¬ live.Awaited call)
    live calls

/-- Two engines answer `calls` alike, and both hand out what is queued. -/
structure Alike (crates : Crates) (inMemory onFile : LiveEngine)
    (calls : List LiveCall) : Prop where
  replies : inMemory.replies crates calls = onFile.replies crates calls
  inMemory : inMemory.Delivers crates calls
  onFile : onFile.Delivers crates calls

end LiveEngine

/-! Only a dispatch that finds an envelope looks at the connection. -/

def SyncEngine.onConn (engine : SyncEngine) (conn : DispatchConn) :
    SyncEngine :=
  { engine with dispatchConn := conn }

namespace SyncEngine

variable (engine : SyncEngine) (conn : DispatchConn) (db : Database)

theorem seedAccount_onConn (sourceAccount : String)
    (currentChainSequence : Int64) (write : Write) :
    (engine.onConn conn).seedAccount sourceAccount currentChainSequence write
        db =
      (engine.seedAccount sourceAccount currentChainSequence write db).bind
        fun db result => .returned db (result.1.onConn conn, result.2) := by
  rw [seedAccount_cases, seedAccount_cases]
  cases write <;> rfl

theorem queuePayment_onConn (crates : Crates) (request : PaymentRequest)
    (stamp : EnvelopeStamp) (unixNow : UInt64) (write : Write) :
    (engine.onConn conn).queuePayment crates request stamp unixNow write db =
      (engine.queuePayment crates request stamp unixNow write db).bind
        fun db result => .returned db (result.1.onConn conn, result.2) := by
  simp only [queuePayment, onConn]
  rcases OfflineEnvelopeBuilder.buildAndSign crates
      (ensureSeeded engine.sequences request.sourceAccount)
      request.sourceAccount request.signingKey .classicalOnly request.txXdr
      request.ttlHops stamp with
    ⟨error | ⟨hybridEnv, sequence⟩, sequences⟩
  · rfl
  · dsimp only
    cases SyncEngineDb.init.enqueueTransaction crates
        hybridEnv.classicalEnvelope request.sourceAccount sequence
        request.priority unixNow write db with
    | crashed db => rfl
    | returned db enqueued =>
        cases enqueued with
        | error error => rfl
        | ok done =>
            rcases engine.queue.pushAt hybridEnv.classicalEnvelope
                request.priority unixNow with ⟨error | done, queue⟩
            · rfl
            · rfl

theorem markSettlement_onConn (messageId : Bytes32) (next : SettlementStatus)
    (updatedAt : UInt64) (writes : StatusWrites) :
    (engine.onConn conn).markSettlement messageId next updatedAt writes db =
      (engine.markSettlement messageId next updatedAt writes db).bind
        fun db result => .returned db (result.1.onConn conn, result.2) := by
  simp only [markSettlement, onConn]
  cases held : engine.settlement.status messageId with
  | none => rfl
  | some current =>
      cases legal : current.canTransitionTo next with
      | false => simp [legal]
      | true =>
          cases SyncEngineDb.setSettlementStatus messageId next updatedAt
              writes db with
          | crashed db => simp [legal]
          | returned db persisted =>
              cases persisted with
              | error error => simp [legal]
              | ok done =>
                  simp [legal, SettlementTracker.transition_of_legal held
                    legal]

theorem nextToDispatch_empty (idle : engine.queue.entries = [])
    (unixNow : UInt64) (write : Write) :
    engine.nextToDispatch unixNow write db = .returned db (engine, none) := by
  have peeked := engine.queue.peek_eq_pop
  cases popped : engine.queue.heap.pop with
  | none => simp [nextToDispatch, peeked, popped]
  | some pair =>
      have member : pair.1 ∈ engine.queue.entries :=
        BinaryHeap.mem_of_pop popped
      simp [idle] at member

/-- The marker of a dispatch needs a table that the other database in memory
does not have. -/
theorem nextToDispatch_memory (inMemory : engine.dispatchConn = .memory)
    (unixNow : UInt64) :
    engine.nextToDispatch unixNow .applied db =
      .returned db (engine, none) := by
  unfold nextToDispatch
  split
  · rfl
  · simp [persistDispatchStatus, inMemory, Write.run]

end SyncEngine

namespace LiveEngine

variable {crates : Crates} {live : LiveEngine} {call : LiveCall}

def onConn (live : LiveEngine) (conn : DispatchConn) : LiveEngine :=
  ⟨live.engine.onConn conn, live.db⟩

/-- The two engines differ in their connection only. -/
def Twins (inMemory onFile : LiveEngine) : Prop :=
  ∃ live : LiveEngine,
    inMemory = live.onConn .memory ∧ onFile = live.onConn .file

theorem settle_onConn (live : LiveEngine) {conn : DispatchConn}
    {moved outcome : Outcome Database (SyncEngine × α)}
    (same : moved = outcome.bind fun db result =>
      .returned db (result.1.onConn conn, result.2))
    (reply : α → LiveReply) :
    (live.onConn conn).settle moved reply =
      ((live.settle outcome reply).1.onConn conn,
        (live.settle outcome reply).2) := by
  rw [same]
  cases outcome <;> rfl

theorem perform_onConn (crates : Crates) (conn : DispatchConn)
    (calm : ¬ live.Awaited call) :
    (live.onConn conn).perform crates call =
      ((live.perform crates call).1.onConn conn,
        (live.perform crates call).2) := by
  cases call with
  | seedAccount sourceAccount currentChainSequence =>
      exact settle_onConn live
        (live.engine.seedAccount_onConn conn live.db sourceAccount
          currentChainSequence .applied) .seeded
  | queuePayment request stamp unixNow =>
      exact settle_onConn live
        (live.engine.queuePayment_onConn conn live.db crates request stamp
          unixNow .applied) .queued
  | nextToDispatch unixNow =>
      have idle : live.engine.queue.entries = [] := by
        by_contra filled
        exact calm ⟨unixNow, rfl, filled⟩
      refine settle_onConn live ?_ .dispatched
      rw [live.engine.nextToDispatch_empty _ idle]
      exact (live.engine.onConn conn).nextToDispatch_empty live.db idle
        unixNow .applied
  | markSettlement messageId next updatedAt =>
      exact settle_onConn live
        (live.engine.markSettlement_onConn conn live.db messageId next
          updatedAt ⟨.served, .applied, .applied⟩) .marked
  | settlementStatus messageId => rfl

theorem reply_memory (awaited : live.Awaited call)
    (inMemory : live.engine.dispatchConn = .memory) :
    live.reply crates call = .dispatched none := by
  obtain ⟨unixNow, rfl, _⟩ := awaited
  simp [reply, perform,
    live.engine.nextToDispatch_memory live.db inMemory, settle]

theorem reply_file (crates : Crates) (awaited : live.Awaited call)
    (onFile : live.engine.dispatchConn = .file) :
    ∃ envelope,
      live.reply crates call = .dispatched (some envelope) := by
  obtain ⟨unixNow, rfl, filled⟩ := awaited
  rcases SyncEngine.nextToDispatch_cases onFile unixNow .applied live.db
    with ⟨idle, _⟩ | ⟨head, rest, _, outcome⟩
  · exact absurd idle filled
  · refine ⟨head.envelope, ?_⟩
    rw [reply, perform, outcome]
    rfl

theorem Twins.matched {inMemory onFile : LiveEngine}
    (twins : Twins inMemory onFile) (calm : ¬ inMemory.Awaited call) :
    inMemory.reply crates call = onFile.reply crates call ∧
      Twins (inMemory.step crates call) (onFile.step crates call) := by
  obtain ⟨live, rfl, rfl⟩ := twins
  have calm : ¬ live.Awaited call := calm
  simp only [reply, step, perform_onConn crates _ calm]
  exact ⟨trivial, _, rfl, rfl⟩

theorem Twins.told {inMemory onFile : LiveEngine}
    (twins : Twins inMemory onFile)
    (same : inMemory.reply crates call = onFile.reply crates call) :
    ¬ inMemory.Awaited call := by
  obtain ⟨live, rfl, rfl⟩ := twins
  intro awaited
  have onFile : (live.onConn .file).Awaited call := awaited
  obtain ⟨envelope, handed⟩ := reply_file crates onFile rfl
  rw [reply_memory awaited rfl, handed] at same
  simp at same

/-- What two engines over either connection answer is the same up to the
first dispatch that finds an envelope. -/
theorem Twins.replies_eq_iff {inMemory onFile : LiveEngine}
    (twins : Twins inMemory onFile) (calls : List LiveCall) :
    inMemory.replies crates calls = onFile.replies crates calls ↔
      inMemory.NoneAwaited crates calls :=
  Machine.answers_eq_iff
    (fun _ _ _ twins calm => twins.matched calm)
    (fun _ _ _ twins same => twins.told same) twins calls

/-! With its marker written, a dispatch over a file hands out the head. -/

theorem step_dispatchConn (crates : Crates) (live : LiveEngine)
    (call : LiveCall) :
    (live.step crates call).engine.dispatchConn =
      live.engine.dispatchConn := by
  by_cases awaited : live.Awaited call
  · obtain ⟨unixNow, rfl, _⟩ := awaited
    cases conn : live.engine.dispatchConn with
    | file =>
        rcases SyncEngine.nextToDispatch_cases conn unixNow .applied live.db
          with ⟨_, outcome⟩ | ⟨head, rest, _, outcome⟩
        · rw [step, perform, outcome]
          exact conn
        · rw [step, perform, outcome]
          exact conn
    | memory =>
        rw [step, perform, live.engine.nextToDispatch_memory _ conn]
        exact conn
  · have same := perform_onConn crates live.engine.dispatchConn awaited
    exact congrArg (·.1.engine.dispatchConn) same

theorem delivers_file (onFile : live.engine.dispatchConn = .file)
    (calls : List LiveCall) : live.Delivers crates calls := by
  induction calls generalizing live with
  | nil => exact fun _ _ _ split => by simp at split
  | cons call rest induction =>
      refine Machine.always_cons.mpr ⟨?_, ?_⟩
      · exact fun awaited => reply_file crates awaited onFile
      · exact induction ((live.step_dispatchConn crates call).trans onFile)

theorem openFresh_twins {file : DatabaseFile} {inMemory onFile : LiveEngine}
    (openedInMemory : openFresh crates ":memory:" = .ok inMemory)
    (openedOnFile : openFresh crates file.path = .ok onFile) :
    Twins inMemory onFile := by
  have fresh (dbPath : String) : openFresh crates dbPath =
      .ok ⟨⟨.new, .new, .new, openDispatchConnection dbPath⟩, .empty⟩ := rfl
  rw [fresh, Except.ok.injEq] at openedInMemory openedOnFile
  rw [openDispatchConnection_path] at openedOnFile
  subst openedInMemory openedOnFile
  exact ⟨⟨⟨.new, .new, .new, .file⟩, .empty⟩, rfl, rfl⟩

/-- An engine in memory behaves like one on a fresh file in exactly the runs
where no dispatch finds an envelope in the queue. -/
theorem alike_iff (file : DatabaseFile) {inMemory onFile : LiveEngine}
    (openedInMemory : openFresh crates ":memory:" = .ok inMemory)
    (openedOnFile : openFresh crates file.path = .ok onFile)
    (calls : List LiveCall) :
    Alike crates inMemory onFile calls ↔ inMemory.NoneAwaited crates calls := by
  have twins := openFresh_twins openedInMemory openedOnFile
  constructor
  · intro alike
    exact (twins.replies_eq_iff calls).mp alike.replies
  · intro noneAwaited
    refine ⟨(twins.replies_eq_iff calls).mpr noneAwaited, ?_, ?_⟩
    · exact noneAwaited.mono fun _ _ calm awaited => absurd awaited calm
    · obtain ⟨live, _, rfl⟩ := twins
      exact delivers_file rfl calls

/-- A baseline, a failed lookup and a dispatch from the empty queue. -/
theorem alike_of_no_payment :
    ∃ inMemory onFile : LiveEngine,
      openFresh Sample.crates ":memory:" = .ok inMemory ∧
      openFresh Sample.crates Sample.file.path = .ok onFile ∧
      Alike Sample.crates inMemory onFile
        [.seedAccount Sample.account 0, .nextToDispatch 1000,
          .settlementStatus (Sample.stamp 1).messageId] := by
  refine ⟨_, _, rfl, rfl, (alike_iff Sample.file rfl rfl _).mpr ?_⟩
  simp only [NoneAwaited, Machine.always_cons]
  refine ⟨?_, ?_, ?_, ?_⟩
  · rintro ⟨_, call, _⟩
    cases call
  · rintro ⟨_, _, filled⟩
    exact filled rfl
  · rintro ⟨_, call, _⟩
    cases call
  · exact fun _ _ _ split => by simp at split

/-- The one payment queued is handed out over a file and never from memory. -/
theorem memory_never_dispatches :
    let calls : List LiveCall :=
      [.queuePayment (Sample.request "AQ") (Sample.stamp 1) 1000,
        .nextToDispatch 1001]
    ∃ inMemory onFile : LiveEngine,
      openFresh Sample.crates ":memory:" = .ok inMemory ∧
      openFresh Sample.crates Sample.file.path = .ok onFile ∧
      inMemory.replies Sample.crates calls =
        [.queued (.ok (Sample.envelope "AQ" 1)), .dispatched none] ∧
      onFile.replies Sample.crates calls =
        [.queued (.ok (Sample.envelope "AQ" 1)),
          .dispatched (some (Sample.envelope "AQ" 1))] ∧
      ¬ Alike Sample.crates inMemory onFile calls := by
  intro calls
  let inMemory : LiveEngine := ⟨⟨.new, .new, .new, .memory⟩, .empty⟩
  let onFile : LiveEngine := ⟨⟨.new, .new, .new, .file⟩, .empty⟩
  have kept : inMemory.replies Sample.crates calls =
      [.queued (.ok (Sample.envelope "AQ" 1)), .dispatched none] := by
    decide +kernel
  have handed : onFile.replies Sample.crates calls =
      [.queued (.ok (Sample.envelope "AQ" 1)),
        .dispatched (some (Sample.envelope "AQ" 1))] := by
    decide +kernel
  refine ⟨inMemory, onFile, rfl, rfl, kept, handed, ?_⟩
  intro alike
  have same := alike.replies
  rw [kept, handed] at same
  simp at same

end LiveEngine

end StellarConduit
