import SyncEngine.Storage.Db

namespace StellarConduit

open Data

structure StatusUpdate where
  messageId : Bytes32
  toStatus : SettlementStatus
  updatedAt : UInt64
  deriving DecidableEq

structure BatchUpdateReport where
  applied : List Bytes32
  rejected : List (Bytes32 × String)
  deriving DecidableEq

namespace Database

/-- `UPDATE settlement_status … WHERE message_id` -/
def updateStatus (db : Database) (messageId : Bytes)
    (status : SettlementStatus) (updatedAt : UInt64) : Database :=
  if (db.statusText messageId).isSome then
    db.replaceStatus messageId status updatedAt
  else
    db

theorem updateStatus_of_tracked {db : Database} {messageId : Bytes}
    {text : String} (held : db.statusText messageId = some text)
    (status : SettlementStatus) (updatedAt : UInt64) :
    db.updateStatus messageId status updatedAt =
      db.replaceStatus messageId status updatedAt := by
  simp [updateStatus, held]

@[simp] theorem nextHistoryId_replaceStatus (db : Database)
    (messageId : Bytes) (status : SettlementStatus) (updatedAt : UInt64) :
    (db.replaceStatus messageId status updatedAt).nextHistoryId =
      db.nextHistoryId := rfl

theorem nextHistoryId_appendHistory (db : Database) (messageId : Bytes)
    (fromStatus : String) (toStatus : SettlementStatus) (timestamp : UInt64) :
    (db.appendHistory messageId fromStatus toStatus timestamp).nextHistoryId =
      db.nextHistoryId + 1 := by
  simp only [nextHistoryId, appendHistory, List.foldl_append, List.foldl_cons,
    List.foldl_nil]
  omega

end Database

namespace SyncEngineDb

/-- One round of the loop of `set_settlement_status_batch`. -/
def batchRound (state : Database × BatchUpdateReport)
    (update : StatusUpdate) : Database × BatchUpdateReport :=
  let (db, report) := state
  let id := update.messageId.toVec
  match db.statusText id with
  | none =>
      (db, { report with
        rejected := report.rejected ++
          [(update.messageId, "Untracked envelope")] })
  | some fromStatus =>
      let isValid :=
        match SettlementStatus.fromStr fromStatus with
        | .ok currentStatus => currentStatus.canTransitionTo update.toStatus
        | .error _ => false
      if isValid then
        ((db.updateStatus id update.toStatus update.updatedAt).appendHistory id
            fromStatus update.toStatus update.updatedAt,
          { report with applied := report.applied ++ [update.messageId] })
      else
        (db, { report with
          rejected := report.rejected ++ [(update.messageId,
            "Illegal transition from '" ++ fromStatus ++ "' to '" ++
              update.toStatus.asStr ++ "'")] })

def batchStatements (updates : List StatusUpdate) (db : Database) :
    Database × BatchUpdateReport :=
  updates.foldl batchRound (db, ⟨[], []⟩)

/-- All rounds share one transaction. -/
def setSettlementStatusBatch (updates : List StatusUpdate) (write : Write)
    (db : Database) :
    Outcome Database (Except SyncEngineError BatchUpdateReport) :=
  let report := (batchStatements updates db).2
  (write.run .connectionError
      (fun db => .ok (batchStatements updates db).1) db).bind
    fun db committed => .returned db (committed.map fun () => report)

theorem batchRound_applied {db : Database} {update : StatusUpdate}
    {current : SettlementStatus}
    (held : db.statusText update.messageId.toVec = some current.asStr)
    (legal : current.canTransitionTo update.toStatus = true)
    (report : BatchUpdateReport) :
    batchRound (db, report) update =
      ((db.replaceStatus update.messageId.toVec update.toStatus
          update.updatedAt).appendHistory update.messageId.toVec current.asStr
          update.toStatus update.updatedAt,
        { report with applied := report.applied ++ [update.messageId] }) := by
  simp [batchRound, held, legal, Database.updateStatus_of_tracked held]

theorem batchRound_untracked {db : Database} {update : StatusUpdate}
    (untracked : db.statusText update.messageId.toVec = none)
    (report : BatchUpdateReport) :
    batchRound (db, report) update = (db, { report with
      rejected := report.rejected ++
        [(update.messageId, "Untracked envelope")] }) := by
  simp [batchRound, untracked]

theorem batchRound_illegal {db : Database} {update : StatusUpdate}
    {fromStatus : String}
    (held : db.statusText update.messageId.toVec = some fromStatus)
    (illegal : ∀ current : SettlementStatus, fromStatus = current.asStr →
      current.canTransitionTo update.toStatus = false)
    (report : BatchUpdateReport) :
    batchRound (db, report) update = (db, { report with
      rejected := report.rejected ++ [(update.messageId,
        "Illegal transition from '" ++ fromStatus ++ "' to '" ++
          update.toStatus.asStr ++ "'")] }) := by
  cases parsed : SettlementStatus.fromStr fromStatus with
  | error error => simp [batchRound, held, parsed]
  | ok current =>
      have rejected :=
        illegal current (SettlementStatus.fromStr_eq_ok.mp parsed)
      simp [batchRound, held, parsed, rejected]

/-- A round applies its update, if that is legal from the text of the row, or
changes nothing. -/
theorem batchRound_cases (db : Database) (update : StatusUpdate) :
    (∃ current : SettlementStatus,
      db.statusText update.messageId.toVec = some current.asStr ∧
      current.canTransitionTo update.toStatus = true ∧
      ∀ report, batchRound (db, report) update =
        ((db.replaceStatus update.messageId.toVec update.toStatus
            update.updatedAt).appendHistory update.messageId.toVec
            current.asStr update.toStatus update.updatedAt,
          { report with applied := report.applied ++ [update.messageId] })) ∨
    (∃ reason, ∀ report, batchRound (db, report) update = (db, { report with
      rejected := report.rejected ++ [(update.messageId, reason)] })) := by
  cases held : db.statusText update.messageId.toVec with
  | none => exact Or.inr ⟨_, batchRound_untracked held⟩
  | some fromStatus =>
      by_cases legal : ∃ current : SettlementStatus,
          fromStatus = current.asStr ∧
            current.canTransitionTo update.toStatus = true
      · obtain ⟨current, rfl, legal⟩ := legal
        exact Or.inl ⟨current, rfl, legal, batchRound_applied held legal⟩
      · refine Or.inr ⟨_, batchRound_illegal held ?_⟩
        intro current same
        by_contra allowed
        exact legal ⟨current, same, by simpa using allowed⟩

end SyncEngineDb

/-! The same list of updates handed to the tracker. -/

namespace SettlementTracker

/-- An update that was accepted, and the status that it left. -/
structure Move where
  update : StatusUpdate
  fromStatus : SettlementStatus

structure TransitionFold where
  tracker : SettlementTracker
  accepted : List Move
  rejected : List (Bytes32 × SyncEngineError)

def TransitionFold.round (fold : TransitionFold) (update : StatusUpdate) :
    TransitionFold :=
  match fold.tracker.transition update.messageId update.toStatus,
      fold.tracker.status update.messageId with
  | .ok advanced, some fromStatus =>
      { fold with
        tracker := advanced
        accepted := fold.accepted ++ [⟨update, fromStatus⟩] }
  | .error error, _ =>
      { fold with
        rejected := fold.rejected ++ [(update.messageId, error)] }
  -- no transition succeeds without a status
  | .ok _, none => fold

def foldTransitions (tracker : SettlementTracker)
    (updates : List StatusUpdate) : TransitionFold :=
  updates.foldl TransitionFold.round ⟨tracker, [], []⟩

def Move.historyRow (move : Move) (id : Int) : SettlementHistoryRow where
  id := id
  messageId := move.update.messageId.toVec
  fromStatus := move.fromStatus.asStr
  toStatus := move.update.toStatus.asStr
  timestamp := move.update.updatedAt.toInt64

/-- The reason that a batch reports where the tracker fails with `error`. -/
def batchReason : SyncEngineError → String
  | .invalidStateTransition source target =>
      "Illegal transition from '" ++ source ++ "' to '" ++ target ++ "'"
  | _ => "Untracked envelope"

def TransitionFold.report (fold : TransitionFold) : BatchUpdateReport where
  applied := fold.accepted.map fun move => move.update.messageId
  rejected := fold.rejected.map fun rejection =>
    (rejection.1, batchReason rejection.2)

/-- Tracker and table hold the same statuses. -/
def AgreesWith (tracker : SettlementTracker) (db : Database) : Prop :=
  ∀ messageId, db.statusText messageId.toVec =
    (tracker.status messageId).map SettlementStatus.asStr

theorem agreesWith_empty : new.AgreesWith Database.empty := by
  intro messageId
  simp [Database.statusText, Database.empty]

theorem AgreesWith.replaceStatus {tracker : SettlementTracker} {db : Database}
    (agrees : tracker.AgreesWith db) (messageId : Bytes32)
    (status : SettlementStatus) (updatedAt : UInt64) :
    (tracker.restore messageId status).AgreesWith
      (db.replaceStatus messageId.toVec status updatedAt) := by
  intro other
  rw [db.statusText_replaceStatus, status_restore]
  by_cases same : other = messageId
  · simp [same]
  · simp [same, agrees other]

namespace TransitionFold

theorem round_accepted {fold : TransitionFold} {update : StatusUpdate}
    {current : SettlementStatus}
    (held : fold.tracker.status update.messageId = some current)
    (legal : current.canTransitionTo update.toStatus = true) :
    fold.round update = { fold with
      tracker := fold.tracker.restore update.messageId update.toStatus
      accepted := fold.accepted ++ [⟨update, current⟩] } := by
  simp [round, transition_of_legal held legal, held]

theorem round_untracked {fold : TransitionFold} {update : StatusUpdate}
    (untracked : fold.tracker.status update.messageId = none) :
    fold.round update = { fold with
      rejected := fold.rejected ++ [(update.messageId,
        .envelopeNotFound (hexEncode update.messageId))] } := by
  have missing : fold.tracker.statuses.lookup update.messageId = none :=
    untracked
  simp [round, transition, missing]

theorem round_illegal {fold : TransitionFold} {update : StatusUpdate}
    {current : SettlementStatus}
    (held : fold.tracker.status update.messageId = some current)
    (illegal : current.canTransitionTo update.toStatus = false) :
    fold.round update = { fold with
      rejected := fold.rejected ++ [(update.messageId,
        .invalidStateTransition current.asStr update.toStatus.asStr)] } := by
  simp [round, transition_of_illegal held illegal]

end TransitionFold

/-- The transaction of a batch that began on `initial` has come as far as
`fold`. -/
structure Simulates (initial : Database)
    (state : Database × BatchUpdateReport) (fold : TransitionFold) :
    Prop where
  agrees : fold.tracker.AgreesWith state.1
  report : state.2 = fold.report
  history : state.1.settlementHistory = initial.settlementHistory ++
    fold.accepted.mapIdx fun position move =>
      move.historyRow (initial.nextHistoryId + position)
  nextId : state.1.nextHistoryId =
    initial.nextHistoryId + fold.accepted.length
  untouched : ∀ key,
    (∀ move ∈ fold.accepted, move.update.messageId.toVec ≠ key) →
    state.1.settlementStatus.lookup key = initial.settlementStatus.lookup key
  queued : state.1.queuedEnvelopes = initial.queuedEnvelopes
  reserved : state.1.sequenceReservations = initial.sequenceReservations

variable {initial : Database} {state : Database × BatchUpdateReport}
  {fold : TransitionFold}

theorem Simulates.start {tracker : SettlementTracker}
    (agrees : tracker.AgreesWith initial) :
    Simulates initial (initial, ⟨[], []⟩) ⟨tracker, [], []⟩ where
  agrees := agrees
  report := rfl
  history := by simp
  nextId := by simp
  untouched := by simp
  queued := rfl
  reserved := rfl

theorem Simulates.reject (simulates : Simulates initial state fold)
    (messageId : Bytes32) (error : SyncEngineError) :
    Simulates initial
      (state.1, { state.2 with
        rejected := state.2.rejected ++ [(messageId, batchReason error)] })
      { fold with rejected := fold.rejected ++ [(messageId, error)] } :=
  { simulates with
    report := by simp [simulates.report, TransitionFold.report] }

theorem Simulates.accept (simulates : Simulates initial state fold)
    (update : StatusUpdate) (current : SettlementStatus) :
    Simulates initial
      ((state.1.replaceStatus update.messageId.toVec update.toStatus
          update.updatedAt).appendHistory update.messageId.toVec current.asStr
          update.toStatus update.updatedAt,
        { state.2 with
          applied := state.2.applied ++ [update.messageId] })
      { fold with
        tracker := fold.tracker.restore update.messageId update.toStatus
        accepted := fold.accepted ++ [⟨update, current⟩] } where
  agrees := simulates.agrees.replaceStatus update.messageId update.toStatus
    update.updatedAt
  report := by simp [simulates.report, TransitionFold.report]
  history := by
    rw [List.mapIdx_concat, ← simulates.nextId, ← List.append_assoc,
      ← simulates.history]
    rfl
  nextId := by
    rw [Database.nextHistoryId_appendHistory,
      Database.nextHistoryId_replaceStatus, simulates.nextId]
    simp
    omega
  untouched := by
    intro key others
    simp only [List.forall_mem_append, List.forall_mem_singleton] at others
    have other : key ≠ update.messageId.toVec := others.2.symm
    rw [← simulates.untouched key others.1]
    simp [Database.appendHistory, Database.replaceStatus, other]
  queued := simulates.queued
  reserved := simulates.reserved

theorem Simulates.round (simulates : Simulates initial state fold)
    (update : StatusUpdate) :
    Simulates initial (SyncEngineDb.batchRound state update)
      (fold.round update) := by
  obtain ⟨db, report⟩ := state
  have agrees := simulates.agrees update.messageId
  cases tracked : fold.tracker.status update.messageId with
  | none =>
      rw [tracked] at agrees
      rw [SyncEngineDb.batchRound_untracked agrees,
        TransitionFold.round_untracked tracked]
      exact simulates.reject update.messageId
        (.envelopeNotFound (hexEncode update.messageId))
  | some current =>
      rw [tracked] at agrees
      cases legal : current.canTransitionTo update.toStatus with
      | true =>
          rw [SyncEngineDb.batchRound_applied agrees legal,
            TransitionFold.round_accepted tracked legal]
          exact simulates.accept update current
      | false =>
          have illegal : ∀ other : SettlementStatus,
              current.asStr = other.asStr →
              other.canTransitionTo update.toStatus = false := by
            intro other same
            rwa [← SettlementStatus.asStr_injective same]
          rw [SyncEngineDb.batchRound_illegal agrees illegal,
            TransitionFold.round_illegal tracked legal]
          exact simulates.reject update.messageId
            (.invalidStateTransition current.asStr update.toStatus.asStr)

theorem Simulates.foldl (simulates : Simulates initial state fold)
    (updates : List StatusUpdate) :
    Simulates initial (updates.foldl SyncEngineDb.batchRound state)
      (updates.foldl TransitionFold.round fold) := by
  induction updates generalizing state fold with
  | nil => exact simulates
  | cons update rest induction => exact induction (simulates.round update)

/-- A batch applies and rejects the updates that the tracker accepts and
rejects when it is handed them one by one. -/
theorem setSettlementStatusBatch_refines (tracker : SettlementTracker)
    (updates : List StatusUpdate) (db : Database)
    (agrees : tracker.AgreesWith db) :
    ∃ after,
      SyncEngineDb.setSettlementStatusBatch updates .applied db =
        .returned after (.ok (tracker.foldTransitions updates).report) ∧
      (tracker.foldTransitions updates).tracker.AgreesWith after ∧
      after.settlementHistory = db.settlementHistory ++
        (tracker.foldTransitions updates).accepted.mapIdx
          (fun position move =>
            move.historyRow (db.nextHistoryId + position)) ∧
      ∀ key,
        (∀ move ∈ (tracker.foldTransitions updates).accepted,
          move.update.messageId.toVec ≠ key) →
        after.settlementStatus.lookup key = db.settlementStatus.lookup key := by
  have simulates := (Simulates.start agrees).foldl updates
  refine ⟨(SyncEngineDb.batchStatements updates db).1, ?_, simulates.agrees,
    simulates.history, simulates.untouched⟩
  rw [foldTransitions, ← simulates.report]
  rfl

def sampleId (number : UInt8) : Bytes32 := Vector.replicate 32 number

/-- One id goes two steps and is refused a third; another one is not tracked. -/
def sampleBatch : List StatusUpdate :=
  [⟨sampleId 1, .propagating, 10⟩, ⟨sampleId 1, .settled, 11⟩,
    ⟨sampleId 2, .settled, 12⟩, ⟨sampleId 1, .failed, 13⟩]

theorem setSettlementStatusBatch_refines_sample :
    ∃ after,
      SyncEngineDb.setSettlementStatusBatch sampleBatch .applied
          (Database.empty.replaceStatus (sampleId 1).toVec .queued 9) =
        .returned after (.ok {
          applied := [sampleId 1, sampleId 1]
          rejected := [(sampleId 2, "Untracked envelope"),
            (sampleId 1, "Illegal transition from 'settled' to 'failed'")] }) ∧
      after.settlementHistory =
        [⟨1, (sampleId 1).toVec, "queued", "propagating", 10⟩,
          ⟨2, (sampleId 1).toVec, "propagating", "settled", 11⟩] := by
  obtain ⟨after, answered, _, history, _⟩ :=
    setSettlementStatusBatch_refines (new.restore (sampleId 1) .queued)
      sampleBatch (Database.empty.replaceStatus (sampleId 1).toVec .queued 9)
      (agreesWith_empty.replaceStatus (sampleId 1) .queued 9)
  have report : ((new.restore (sampleId 1) .queued).foldTransitions
      sampleBatch).report = {
        applied := [sampleId 1, sampleId 1]
        rejected := [(sampleId 2, "Untracked envelope"),
          (sampleId 1, "Illegal transition from 'settled' to 'failed'")] } := by
    decide +kernel
  exact ⟨after, by rw [answered, report], by rw [history]; decide +kernel⟩

end SettlementTracker

end StellarConduit
