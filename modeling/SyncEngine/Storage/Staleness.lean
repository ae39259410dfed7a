import SyncEngine.Data.Int64
import SyncEngine.Storage.Sweep

namespace StellarConduit

open Data

namespace SyncEngineDb

/-- The loop of `sweep_stale_envelopes`, which the first error ends. -/
def failAll (now : UInt64) (writes : Bytes32 → StatusWrites) :
    List Bytes32 → Database → Outcome Database (Except SyncEngineError Unit)
  | [], db => .returned db (.ok ())
  | messageId :: rest, db =>
      (setSettlementStatus messageId .failed now (writes messageId)
        db).tryBind fun db () => failAll now writes rest db

def sweepStaleEnvelopes (maxAgeSecs now : UInt64)
    (scan : HashMap.Listing Bytes QueuedEnvelopeColumns) (select : Read)
    (writes : Bytes32 → StatusWrites) (db : Database) :
    Outcome Database (Except SyncEngineError (List Bytes32)) :=
  match select with
  | .refused => .returned db (.error .connectionError)
  | .served =>
      let staleIds := staleIds maxAgeSecs now scan db
      (failAll now writes staleIds db).tryBind fun db () =>
        .returned db (.ok staleIds)

/-- A sweep whose statements all run. -/
def sweep (maxAgeSecs now : UInt64)
    (scan : HashMap.Listing Bytes QueuedEnvelopeColumns) (db : Database) :
    Outcome Database (Except SyncEngineError (List Bytes32)) :=
  sweepStaleEnvelopes maxAgeSecs now scan .served
    (fun _ => ⟨.served, .applied, .applied⟩) db

end SyncEngineDb

namespace Database

/-- One round of a sweep. -/
def failed (now : UInt64) (db : Database) (messageId : Bytes32) : Database :=
  (db.replaceStatus messageId.toVec .failed now).appendHistory
    messageId.toVec ((db.statusText messageId.toVec).getD "") .failed now

/-- The status that `SyncEngine::open` gives to an envelope. -/
def openStatus (db : Database) (key : Bytes) :
    Except SyncEngineError SettlementStatus :=
  match db.statusText key with
  | none => .ok .queued
  | some text => SettlementStatus.fromStr text

theorem openStatus_eq (db : Database) (messageId : Bytes32) :
    db.openStatus messageId.toVec =
      (SyncEngineDb.getSettlementStatus messageId db).map fun persisted =>
        persisted.getD .queued := by
  unfold openStatus SyncEngineDb.getSettlementStatus
  cases db.statusText messageId.toVec with
  | none => rfl
  | some text =>
      dsimp only
      cases SettlementStatus.fromStr text with
      | error error => rfl
      | ok status => rfl

/-- A row of an envelope that is still under way and older than allowed. -/
structure Stale (maxAgeSecs now : UInt64) (db : Database) (key : Bytes) :
    Prop where
  old : ∃ columns, db.queuedEnvelopes.lookup key = some columns ∧
    columns.enqueuedAt.toUInt64 < now - maxAgeSecs
  underWay : db.openStatus key = .ok .queued ∨
    db.openStatus key = .ok .propagating

/-- The row of the envelope's status says that it is under way. -/
def SaysUnderWay (db : Database) (key : Bytes) : Prop :=
  db.statusText key = some "queued" ∨ db.statusText key = some "propagating"

theorem openStatus_underWay (db : Database) (key : Bytes) :
    db.openStatus key = .ok .queued ∨ db.openStatus key = .ok .propagating ↔
      db.statusText key = none ∨ db.SaysUnderWay key := by
  unfold openStatus SaysUnderWay
  cases held : db.statusText key with
  | none => simp
  | some text =>
      simp [SettlementStatus.fromStr_eq_ok, SettlementStatus.asStr]

/-! The rounds of a sweep. -/

variable (now : UInt64)

theorem lookup_failed (db : Database) (messageId : Bytes32) (key : Bytes) :
    (db.failed now messageId).settlementStatus.lookup key =
      if key = messageId.toVec then
        some ⟨SettlementStatus.failed.asStr, now.toInt64⟩
      else db.settlementStatus.lookup key :=
  HashMap.lookup_insert_ite _ _ _ _

theorem lookup_foldl_failed (ids : List Bytes32) (db : Database)
    (key : Bytes) :
    (ids.foldl (failed now) db).settlementStatus.lookup key =
      if key ∈ ids.map Bytes32.toVec then
        some ⟨SettlementStatus.failed.asStr, now.toInt64⟩
      else db.settlementStatus.lookup key := by
  induction ids generalizing db with
  | nil => simp
  | cons messageId ids induction =>
      rw [List.foldl_cons, induction, lookup_failed]
      by_cases here : key = messageId.toVec
      · simp [here]
      · simp [here]

theorem queuedEnvelopes_foldl_failed (ids : List Bytes32) (db : Database) :
    (ids.foldl (failed now) db).queuedEnvelopes = db.queuedEnvelopes := by
  induction ids generalizing db with
  | nil => rfl
  | cons messageId ids induction =>
      rw [List.foldl_cons, induction]
      rfl

theorem history_foldl_failed (ids : List Bytes32) (db : Database) :
    ∃ added, (ids.foldl (failed now) db).settlementHistory =
        db.settlementHistory ++ added ∧
      added.map (fun row => (row.messageId, row.toStatus)) =
        ids.map fun messageId =>
          (messageId.toVec, SettlementStatus.failed.asStr) := by
  induction ids generalizing db with
  | nil => exact ⟨[], by simp, rfl⟩
  | cons messageId ids induction =>
      obtain ⟨added, appended, rows⟩ := induction (db.failed now messageId)
      rw [List.foldl_cons, appended]
      refine ⟨_ :: added, List.append_assoc _ [_] added, ?_⟩
      rw [List.map_cons, List.map_cons, rows]

end Database

namespace SyncEngineDb

theorem failAll_served (now : UInt64) (ids : List Bytes32) (db : Database) :
    failAll now (fun _ => ⟨.served, .applied, .applied⟩) ids db =
      .returned (ids.foldl (Database.failed now) db) (.ok ()) := by
  induction ids generalizing db with
  | nil => rfl
  | cons messageId ids induction => exact induction _

theorem sweep_returned (maxAgeSecs now : UInt64)
    (scan : HashMap.Listing Bytes QueuedEnvelopeColumns) (db : Database) :
    sweep maxAgeSecs now scan db =
      .returned ((staleIds maxAgeSecs now scan db).foldl
        (Database.failed now) db) (.ok (staleIds maxAgeSecs now scan db)) := by
  simp only [sweep, sweepStaleEnvelopes, failAll_served, Outcome.tryBind_ok]

/-! What a sweep selects. -/

variable {maxAgeSecs now : UInt64}
  {scan : HashMap.Listing Bytes QueuedEnvelopeColumns} {db : Database}

theorem mem_selectStale {cutoff : Int64}
    (scanned : scan.toFinmap = db.queuedEnvelopes) {key : Bytes} :
    key ∈ selectStale cutoff scan db ↔
      (∃ columns, db.queuedEnvelopes.lookup key = some columns ∧
        columns.enqueuedAt < cutoff) ∧ db.SaysUnderWay key := by
  simp only [selectStale, List.mem_map, List.mem_filter, decide_eq_true_eq]
  constructor
  · rintro ⟨⟨key, columns⟩, ⟨listed, old, underWay⟩, rfl⟩
    refine ⟨⟨columns, ?_, old⟩, underWay⟩
    rw [← scanned, Finmap.lookup_toFinmap]
    exact AList.mem_lookup_iff.mpr listed
  · rintro ⟨⟨columns, held, old⟩, underWay⟩
    rw [← scanned, Finmap.lookup_toFinmap] at held
    exact ⟨⟨key, columns⟩, ⟨AList.mem_lookup_iff.mp held, old, underWay⟩, rfl⟩

theorem mem_map_staleIds {key : Bytes} :
    key ∈ (staleIds maxAgeSecs now scan db).map Bytes32.toVec ↔
      key.length = 32 ∧
        key ∈ selectStale (saturatingSub now maxAgeSecs).toInt64 scan db := by
  simp only [staleIds, List.mem_map, List.mem_filterMap]
  constructor
  · rintro ⟨messageId, ⟨bytes, selected, converted⟩, rfl⟩
    rw [Bytes32.toVec_of_tryFrom converted]
    refine ⟨?_, selected⟩
    rw [← Bytes32.toVec_of_tryFrom converted]
    simp [Bytes32.toVec]
  · rintro ⟨sized, selected⟩
    have converted : Bytes32.tryFrom key = some ⟨key.toArray, sized⟩ :=
      dif_pos sized
    exact ⟨_, ⟨key, selected, converted⟩, Bytes32.toVec_of_tryFrom converted⟩

theorem nodup_staleIds : (staleIds maxAgeSecs now scan db).Nodup := by
  have keys : (selectStale (saturatingSub now maxAgeSecs).toInt64 scan
      db).Nodup := by
    have nodup : (scan.entries.map Sigma.fst).Nodup := scan.nodupKeys
    exact nodup.sublist (List.filter_sublist.map Sigma.fst)
  apply keys.filterMap
  intro first second array firstIs secondIs
  rw [← Bytes32.toVec_of_tryFrom firstIs, ← Bytes32.toVec_of_tryFrom secondIs]

/-- The sweep went over exactly the stale rows. -/
structure SweepsExactly (maxAgeSecs now : UInt64) (db after : Database)
    (ids : List Bytes32) : Prop where
  distinct : ids.Nodup
  returned : ∀ key, key ∈ ids.map Bytes32.toVec ↔ db.Stale maxAgeSecs now key
  failed : ∀ key, db.Stale maxAgeSecs now key →
    after.statusText key = some SettlementStatus.failed.asStr
  others : ∀ key, ¬ db.Stale maxAgeSecs now key →
    after.settlementStatus.lookup key = db.settlementStatus.lookup key
  history : ∃ added, after.settlementHistory = db.settlementHistory ++ added ∧
    added.map (fun row => (row.messageId, row.toStatus)) =
      ids.map fun messageId =>
        (messageId.toVec, SettlementStatus.failed.asStr)
  again : ∀ rescan : HashMap.Listing Bytes QueuedEnvelopeColumns,
    rescan.toFinmap = after.queuedEnvelopes →
    sweep maxAgeSecs now rescan after = .returned after (.ok [])

/-- The rows that the join leaves out are recent, and those that it reaches
were enqueued in the same half of the range as the cutoff. -/
structure Sweepable (cutoff : UInt64) (db : Database) : Prop where
  leftOut : ∀ key columns, db.queuedEnvelopes.lookup key = some columns →
    db.statusText key = none ∨ key.length ≠ 32 ∧ db.SaysUnderWay key →
    cutoff ≤ columns.enqueuedAt.toUInt64
  sameHalf : ∀ key columns, db.queuedEnvelopes.lookup key = some columns →
    key.length = 32 → db.SaysUnderWay key →
    (columns.enqueuedAt.toUInt64.toNat < 2 ^ 63 ↔ cutoff.toNat < 2 ^ 63)

theorem saturatingSub_of_le (inTime : maxAgeSecs ≤ now) :
    saturatingSub now maxAgeSecs = now - maxAgeSecs := if_pos inTime

theorem signed_old_iff {columns : QueuedEnvelopeColumns} {cutoff : UInt64}
    (same : columns.enqueuedAt.toUInt64.toNat < 2 ^ 63 ↔
      cutoff.toNat < 2 ^ 63) :
    columns.enqueuedAt < cutoff.toInt64 ↔
      columns.enqueuedAt.toUInt64 < cutoff := by
  have unsigned := toInt64_lt_of_same_half same
  rwa [Int64.toInt64_toUInt64] at unsigned

/-- The ids of a sweep are those of the stale rows just when its rows are
sweepable. -/
theorem mem_staleIds_iff (scanned : scan.toFinmap = db.queuedEnvelopes)
    (inTime : maxAgeSecs ≤ now) :
    (∀ key, key ∈ (staleIds maxAgeSecs now scan db).map Bytes32.toVec ↔
        db.Stale maxAgeSecs now key) ↔
      Sweepable (now - maxAgeSecs) db := by
  simp only [mem_map_staleIds, mem_selectStale scanned,
    saturatingSub_of_le inTime]
  constructor
  · intro exact
    constructor
    · intro key columns held leftOut
      by_contra recent
      have stale : db.Stale maxAgeSecs now key := by
        refine ⟨⟨columns, held, UInt64.not_le.mp recent⟩,
          (db.openStatus_underWay key).mpr ?_⟩
        exact leftOut.imp_right And.right
      obtain ⟨sized, -, underWay⟩ := (exact key).mpr stale
      rcases leftOut with missing | ⟨wrong, -⟩
      · rcases underWay with queued | propagating
        · rw [missing] at queued
          cases queued
        · rw [missing] at propagating
          cases propagating
      · exact wrong sized
    · intro key columns held sized underWay
      by_contra differ
      have unsigned := toInt64_lt_of_other_half differ
      rw [Int64.toInt64_toUInt64] at unsigned
      by_cases old : columns.enqueuedAt.toUInt64 < now - maxAgeSecs
      · have stale : db.Stale maxAgeSecs now key :=
          ⟨⟨columns, held, old⟩,
            (db.openStatus_underWay key).mpr (Or.inr underWay)⟩
        obtain ⟨-, ⟨columns', held', selected⟩, -⟩ := (exact key).mpr stale
        obtain rfl := Option.some.inj (held.symm.trans held')
        exact unsigned.mp selected old
      · obtain ⟨⟨columns', held', stale⟩, -⟩ := (exact key).mp
          ⟨sized, ⟨columns, held, unsigned.mpr old⟩, underWay⟩
        obtain rfl := Option.some.inj (held.symm.trans held')
        exact old stale
  · intro sweepable key
    constructor
    · rintro ⟨sized, ⟨columns, held, selected⟩, underWay⟩
      have same := sweepable.sameHalf key columns held sized underWay
      exact ⟨⟨columns, held, (signed_old_iff same).mp selected⟩,
        (db.openStatus_underWay key).mpr (Or.inr underWay)⟩
    · rintro ⟨⟨columns, held, old⟩, underWay⟩
      have reached : key.length = 32 ∧ db.SaysUnderWay key := by
        by_contra leftOut
        have recent := sweepable.leftOut key columns held (by
          rcases (db.openStatus_underWay key).mp underWay with missing | marked
          · exact Or.inl missing
          · exact Or.inr ⟨fun sized => leftOut ⟨sized, marked⟩,
              marked⟩)
        exact absurd old (UInt64.not_lt.mpr recent)
      obtain ⟨sized, marked⟩ := reached
      have same := sweepable.sameHalf key columns held sized marked
      exact ⟨sized, ⟨columns, held, (signed_old_iff same).mpr old⟩, marked⟩

theorem statusText_foldl_failed (ids : List Bytes32) (key : Bytes) :
    (ids.foldl (Database.failed now) db).statusText key =
      if key ∈ ids.map Bytes32.toVec then
        some SettlementStatus.failed.asStr
      else db.statusText key := by
  rw [Database.statusText, Database.lookup_foldl_failed]
  split
  · rfl
  · rfl

/-- Whatever a sweep selects, it would not select again. -/
theorem staleIds_again (scanned : scan.toFinmap = db.queuedEnvelopes)
    {rescan : HashMap.Listing Bytes QueuedEnvelopeColumns}
    (rescanned : rescan.toFinmap = ((staleIds maxAgeSecs now scan db).foldl
      (Database.failed now) db).queuedEnvelopes) :
    staleIds maxAgeSecs now rescan ((staleIds maxAgeSecs now scan db).foldl
      (Database.failed now) db) = [] := by
  apply List.eq_nil_iff_forall_not_mem.mpr
  intro messageId member
  have selected := mem_map_staleIds.mp (List.mem_map_of_mem member)
  rw [mem_selectStale rescanned,
    Database.queuedEnvelopes_foldl_failed] at selected
  obtain ⟨sized, old, marked⟩ := selected
  unfold Database.SaysUnderWay at marked
  rw [statusText_foldl_failed] at marked
  by_cases swept : messageId.toVec ∈
      (staleIds maxAgeSecs now scan db).map Bytes32.toVec
  · rw [if_pos swept] at marked
    exact absurd marked (by decide)
  · rw [if_neg swept] at marked
    exact swept (mem_map_staleIds.mpr
      ⟨sized, (mem_selectStale scanned).mpr ⟨old, marked⟩⟩)

/-- A sweep goes over exactly the stale rows when the signed columns and the
join show them to it. -/
theorem sweep_exact_iff (maxAgeSecs now : UInt64)
    (scan : HashMap.Listing Bytes QueuedEnvelopeColumns) (db : Database)
    (scanned : scan.toFinmap = db.queuedEnvelopes)
    (inTime : maxAgeSecs ≤ now) :
    (∃ ids after, sweep maxAgeSecs now scan db = .returned after (.ok ids) ∧
      SweepsExactly maxAgeSecs now db after ids) ↔
    Sweepable (now - maxAgeSecs) db := by
  rw [← mem_staleIds_iff scanned inTime, sweep_returned]
  constructor
  · rintro ⟨ids, after, same, exact⟩
    obtain ⟨rfl, ids_eq⟩ := Outcome.returned.inj same
    rw [Except.ok.inj ids_eq]
    exact exact.returned
  · intro returned
    refine ⟨_, _, rfl, nodup_staleIds, returned, ?_, ?_,
      Database.history_foldl_failed now _ db, ?_⟩
    · intro key stale
      rw [statusText_foldl_failed, if_pos ((returned key).mpr stale)]
    · intro key fresh
      rw [Database.lookup_foldl_failed, if_neg (mt (returned key).mp fresh)]
    · intro rescan rescanned
      rw [sweep_returned, staleIds_again scanned rescanned]
      rfl

/-! One old envelope, with and without a row for its status. -/

def queuedDb : Database :=
  Database.empty.replaceEnvelope SharedDb.sampleId.toVec
    SharedDb.sampleColumns

/-- An envelope that was only ever enqueued is never swept. -/
theorem untracked_not_swept :
    sweep 10 100 SharedDb.sampleScan queuedDb = .returned queuedDb (.ok []) ∧
      queuedDb.Stale 10 100 SharedDb.sampleId.toVec := by
  refine ⟨by rw [sweep_returned]; rfl, ?_⟩
  exact ⟨⟨SharedDb.sampleColumns, by decide +kernel, by decide +kernel⟩,
    Or.inl rfl⟩

theorem tracked_is_swept :
    let db := queuedDb.replaceStatus SharedDb.sampleId.toVec .queued 5
    ∃ ids after, sweep 10 100 SharedDb.sampleScan db =
        .returned after (.ok ids) ∧
      SweepsExactly 10 100 db after ids := by
  intro db
  have only : ∀ key columns, db.queuedEnvelopes.lookup key = some columns →
      key = SharedDb.sampleId.toVec ∧ columns = SharedDb.sampleColumns := by
    intro key columns held
    have looked : db.queuedEnvelopes.lookup key =
        if key = SharedDb.sampleId.toVec then some SharedDb.sampleColumns
        else none :=
      HashMap.lookup_insert_ite _ _ _ _
    rw [looked] at held
    split_ifs at held with same
    exact ⟨same, (Option.some.inj held).symm⟩
  apply (sweep_exact_iff 10 100 SharedDb.sampleScan db rfl
    (by decide)).mpr
  constructor
  · intro key columns held leftOut
    obtain ⟨rfl, rfl⟩ := only key columns held
    rcases leftOut with missing | ⟨wrong, -⟩
    · exact absurd missing (by decide +kernel)
    · exact absurd rfl wrong
  · intro key columns held sized marked
    obtain ⟨rfl, rfl⟩ := only key columns held
    decide +kernel

end SyncEngineDb

end StellarConduit
