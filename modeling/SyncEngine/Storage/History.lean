import SyncEngine.Data.SortedPairs
import SyncEngine.Data.Table
import SyncEngine.Storage.Sweep

namespace StellarConduit

open Data

structure HistoryEntry where
  messageId : Bytes32
  fromStatus : String
  toStatus : String
  timestamp : UInt64
  deriving DecidableEq

namespace SyncEngineDb

def historyEntry (row : SettlementHistoryRow) : HistoryEntry where
  messageId := (Bytes32.tryFrom row.messageId).getD (Vector.replicate 32 0)
  fromStatus := row.fromStatus
  toStatus := row.toStatus
  timestamp := row.timestamp.toUInt64

/-- What `history_for` answers when storage serves it. -/
def historyFor (messageId : Bytes32) (db : Database) : List HistoryEntry :=
  (sortBy SettlementHistoryRow.id (db.settlementHistory.filter
    fun row => row.messageId = messageId.toVec)).map historyEntry

end SyncEngineDb

/-- The status that an entry leads to, if it leaves `current` by a legal
transition. -/
def HistoryEntry.follow (current : SettlementStatus) (entry : HistoryEntry) :
    Option SettlementStatus :=
  match SettlementStatus.fromStr entry.toStatus with
  | .error _ => none
  | .ok next =>
      if entry.fromStatus = current.asStr ∧
          current.canTransitionTo next = true then
        some next
      else
        none

def replayHistory (current : SettlementStatus)
    (entries : List HistoryEntry) : Option SettlementStatus :=
  entries.foldlM HistoryEntry.follow current

theorem HistoryEntry.follow_eq_some {current next : SettlementStatus}
    {entry : HistoryEntry} :
    entry.follow current = some next ↔
      entry.fromStatus = current.asStr ∧ entry.toStatus = next.asStr ∧
        current.canTransitionTo next = true := by
  have target : entry.toStatus = next.asStr ↔
      SettlementStatus.fromStr entry.toStatus = .ok next :=
    SettlementStatus.fromStr_eq_ok.symm
  rw [target, follow]
  cases parsed : SettlementStatus.fromStr entry.toStatus with
  | error error => simp
  | ok reached =>
      simp only [Option.ite_none_right_eq_some, Option.some_inj,
        Except.ok.injEq]
      constructor
      · rintro ⟨⟨chained, legal⟩, rfl⟩
        exact ⟨chained, rfl, legal⟩
      · rintro ⟨chained, rfl, legal⟩
        exact ⟨⟨chained, legal⟩, rfl⟩

theorem replayHistory_snoc (current : SettlementStatus)
    (entries : List HistoryEntry) (entry : HistoryEntry) :
    replayHistory current (entries ++ [entry]) =
      (replayHistory current entries).bind fun reached =>
        entry.follow reached := by
  rw [replayHistory, List.foldlM_append]
  apply bind_congr
  intro reached
  simp

/-- No legal transition leads back to `Queued`. -/
theorem eq_nil_of_replayHistory {current : SettlementStatus}
    {entries : List HistoryEntry}
    (replayed : replayHistory current entries = some .queued) :
    entries = [] := by
  rcases List.eq_nil_or_concat entries with empty | ⟨earlier, last, rfl⟩
  · exact empty
  · rw [List.concat_eq_append, replayHistory_snoc] at replayed
    obtain ⟨reached, _, followed⟩ := Option.bind_eq_some_iff.mp replayed
    obtain ⟨_, _, legal⟩ := HistoryEntry.follow_eq_some.mp followed
    exact absurd rfl (SettlementStatus.ne_queued_of_canTransitionTo legal)

namespace Database

/-- The history of `messageId` leads from `Queued` to the status in its row. -/
def Trail (db : Database) (messageId : Bytes32) : Prop :=
  ∃ final, replayHistory .queued (SyncEngineDb.historyFor messageId db) =
      some final ∧
    db.statusText messageId.toVec = some final.asStr

def AuditTrail (db : Database) : Prop :=
  ∀ messageId : Bytes32,
    (db.queuedEnvelopes.lookup messageId.toVec).isSome → db.Trail messageId

/-- The trails of all envelopes that have a status. -/
def Accounted (db : Database) : Prop :=
  ∀ messageId : Bytes32,
    (db.statusText messageId.toVec).isSome → db.Trail messageId

/-- The rows of the history come in the order of their ids. -/
def HistoryOrdered (db : Database) : Prop :=
  Increasing SettlementHistoryRow.id db.settlementHistory

variable {db after : Database}

theorem lt_nextHistoryId {row : SettlementHistoryRow}
    (member : row ∈ db.settlementHistory) : row.id < db.nextHistoryId :=
  lt_nextId SettlementHistoryRow.id member

theorem historyFor_eq (ordered : db.HistoryOrdered) (messageId : Bytes32) :
    SyncEngineDb.historyFor messageId db =
      (db.settlementHistory.filter fun row =>
        row.messageId = messageId.toVec).map SyncEngineDb.historyEntry := by
  rw [SyncEngineDb.historyFor,
    sortBy_eq_self (ordered.sublist List.filter_sublist)]

theorem historyFor_congr
    (history : after.settlementHistory = db.settlementHistory)
    (messageId : Bytes32) :
    SyncEngineDb.historyFor messageId after =
      SyncEngineDb.historyFor messageId db := by
  rw [SyncEngineDb.historyFor, history, SyncEngineDb.historyFor]

section

variable {written : Bytes32} {fromStatus : String} {next : SettlementStatus}
  {timestamp : UInt64}

theorem HistoryOrdered.appended (ordered : db.HistoryOrdered)
    (history : after.settlementHistory = (db.appendHistory written.toVec
      fromStatus next timestamp).settlementHistory) :
    after.HistoryOrdered := by
  rw [HistoryOrdered, history, appendHistory, Increasing,
    List.pairwise_append]
  refine ⟨ordered, List.pairwise_singleton _ _, ?_⟩
  intro row member last single
  obtain rfl := List.mem_singleton.mp single
  exact lt_nextHistoryId member

theorem historyFor_appended (ordered : db.HistoryOrdered)
    (history : after.settlementHistory = (db.appendHistory written.toVec
      fromStatus next timestamp).settlementHistory) (messageId : Bytes32) :
    SyncEngineDb.historyFor messageId after =
      SyncEngineDb.historyFor messageId db ++
        if messageId = written then
          [⟨written, fromStatus, next.asStr, timestamp⟩]
        else [] := by
  rw [historyFor_eq (ordered.appended history), historyFor_eq ordered, history,
    appendHistory, List.filter_append, List.map_append]
  by_cases same : messageId = written
  · simp [same, SyncEngineDb.historyEntry]
  · have other : written.toVec ≠ messageId.toVec :=
      Bytes32.toVec_ne (Ne.symm same)
    simp [same, other]

end

theorem trail_iff {messageId : Bytes32} {current : SettlementStatus}
    (held : db.statusText messageId.toVec = some current.asStr) :
    db.Trail messageId ↔
      replayHistory .queued (SyncEngineDb.historyFor messageId db) =
        some current := by
  constructor
  · rintro ⟨final, replayed, text⟩
    obtain rfl := SettlementStatus.asStr_injective
      (Option.some_inj.mp (held.symm.trans text))
    exact replayed
  · exact fun replayed => ⟨current, replayed, held⟩

/-- Only the trail of the envelope that is written depends on the write. -/
theorem accounted_iff {written : Bytes32} {next : SettlementStatus}
    (accounted : db.Accounted)
    (status : ∀ key, after.statusText key =
      if key = written.toVec then some next.asStr else db.statusText key)
    (history : ∀ messageId, messageId ≠ written →
      SyncEngineDb.historyFor messageId after =
        SyncEngineDb.historyFor messageId db) :
    after.Accounted ↔
      replayHistory .queued (SyncEngineDb.historyFor written after) =
        some next := by
  have held : after.statusText written.toVec = some next.asStr := by
    rw [status, if_pos rfl]
  constructor
  · intro all
    exact (trail_iff held).mp (all written (Option.isSome_of_eq_some held))
  · intro replayed messageId tracked
    by_cases same : messageId = written
    · exact same ▸ (trail_iff held).mpr replayed
    · have other : messageId.toVec ≠ written.toVec := Bytes32.toVec_ne same
      rw [status, if_neg other] at tracked
      rw [Trail, status, if_neg other, history messageId same]
      exact accounted messageId tracked

end Database

/-- What one call can do to the rows of statuses and of history, and what the
history needs for it to account for the statuses afterwards. -/
inductive HistoryEffect (db after : Database) (keeps : Prop) : Prop
  | kept (status : ∀ key, after.statusText key = db.statusText key)
      (history : after.settlementHistory = db.settlementHistory) (met : keeps)
  | queued {written : Bytes32}
      (status : ∀ key, after.statusText key =
        if key = written.toVec then some SettlementStatus.queued.asStr
        else db.statusText key)
      (history : after.settlementHistory = db.settlementHistory)
      (met : keeps ↔ SyncEngineDb.historyFor written db = [])
  | overwritten {written : Bytes32} {current next : SettlementStatus}
      (held : db.statusText written.toVec = some current.asStr)
      (status : ∀ key, after.statusText key =
        if key = written.toVec then some next.asStr else db.statusText key)
      (history : after.settlementHistory = db.settlementHistory)
      (met : keeps ↔ current = next)
  | recorded {written : Bytes32} {current next : SettlementStatus}
      {select : Read} {timestamp : UInt64}
      (held : db.statusText written.toVec = some current.asStr)
      (legal : current.canTransitionTo next = true)
      (status : ∀ key, after.statusText key =
        if key = written.toVec then some next.asStr else db.statusText key)
      (history : after.settlementHistory = (db.appendHistory written.toVec
        (SyncEngineDb.selectFromStatus written select db) next
        timestamp).settlementHistory)
      (met : keeps ↔ select = .served)

namespace HistoryEffect

variable {db after : Database} {keeps : Prop}

theorem ordered (effect : HistoryEffect db after keeps)
    (ordered : db.HistoryOrdered) : after.HistoryOrdered := by
  cases effect with
  | kept status history met => rwa [Database.HistoryOrdered, history]
  | queued status history met => rwa [Database.HistoryOrdered, history]
  | overwritten held status history met =>
      rwa [Database.HistoryOrdered, history]
  | recorded held legal status history met => exact ordered.appended history

/-- Where the history accounts for all statuses, it still does so after a call
just when the call meets its condition. -/
theorem accounted_iff (effect : HistoryEffect db after keeps)
    (ordered : db.HistoryOrdered) (accounted : db.Accounted) :
    after.Accounted ↔ keeps := by
  have replayed {written : Bytes32} {current : SettlementStatus}
      (held : db.statusText written.toVec = some current.asStr) :
      replayHistory .queued (SyncEngineDb.historyFor written db) =
        some current :=
    (Database.trail_iff held).mp
      (accounted written (Option.isSome_of_eq_some held))
  cases effect with
  | kept status history met =>
      refine ⟨fun _ => met, fun _ messageId tracked => ?_⟩
      rw [status] at tracked
      rw [Database.Trail, status, Database.historyFor_congr history]
      exact accounted messageId tracked
  | queued status history met =>
      have same := Database.historyFor_congr history
      rw [Database.accounted_iff accounted status fun other _ => same other,
        same, met]
      refine ⟨eq_nil_of_replayHistory, fun empty => ?_⟩
      rw [empty]
      rfl
  | overwritten held status history met =>
      have same := Database.historyFor_congr history
      rw [Database.accounted_iff accounted status fun other _ => same other,
        same, met, replayed held, Option.some_inj]
  | @recorded written current next select timestamp held legal status history
      met =>
      have appended := Database.historyFor_appended ordered history
      rw [Database.accounted_iff accounted status
          fun other different => by rw [appended, if_neg different,
            List.append_nil],
        appended, if_pos rfl, replayHistory_snoc, replayed held,
        Option.bind_some, HistoryEntry.follow_eq_some, met]
      cases select with
      | served => simp [SyncEngineDb.selectFromStatus, held, legal]
      | refused =>
          have other : "" ≠ current.asStr := by cases current <;> decide
          simp [SyncEngineDb.selectFromStatus, other]

end HistoryEffect

end StellarConduit
