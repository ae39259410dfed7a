import SyncEngine.Data.Run
import SyncEngine.Storage.Batch

namespace StellarConduit

open Data

/-- `Vec<u8>::try_into` for an array of 32 bytes. -/
def Bytes32.tryFrom (bytes : Bytes) : Option Bytes32 :=
  if sized : bytes.toArray.size = 32 then some ⟨bytes.toArray, sized⟩ else none

theorem Bytes32.toVec_of_tryFrom {bytes : Bytes} {array : Bytes32}
    (converted : Bytes32.tryFrom bytes = some array) : array.toVec = bytes := by
  unfold Bytes32.tryFrom at converted
  split at converted
  · obtain rfl := Option.some_inj.mp converted
    rfl
  · simp at converted

@[simp] theorem Bytes32.tryFrom_toVec (array : Bytes32) :
    Bytes32.tryFrom array.toVec = some array := by
  have sized : array.toVec.toArray.size = 32 := by
    simp [Bytes32.toVec]
  rw [Bytes32.tryFrom, dif_pos sized]
  exact congrArg some (Bytes32.toVec_injective rfl)

/-- `try_into().unwrap_or([0u8; 32])` -/
def Bytes32.orZero (bytes : Bytes) : Bytes32 :=
  (Bytes32.tryFrom bytes).getD (Vector.replicate 32 0)

@[simp] theorem Bytes32.orZero_toVec (array : Bytes32) :
    Bytes32.orZero array.toVec = array := by
  simp [Bytes32.orZero]

/-- `u64::saturating_sub` -/
def saturatingSub (left right : UInt64) : UInt64 :=
  if right ≤ left then left - right else 0

namespace SyncEngineDb

/-- The `SELECT` of `sweep_stale_envelopes`, which yields the rows in the order
that the scan leaves open. -/
def selectStale (cutoff : Int64)
    (scan : HashMap.Listing Bytes QueuedEnvelopeColumns) (db : Database) :
    List Bytes :=
  (scan.entries.filter fun row =>
    row.2.enqueuedAt < cutoff ∧
      (db.statusText row.1 = some "queued" ∨
        db.statusText row.1 = some "propagating")).map Sigma.fst

def staleIds (maxAgeSecs now : UInt64)
    (scan : HashMap.Listing Bytes QueuedEnvelopeColumns) (db : Database) :
    List Bytes32 :=
  (selectStale (saturatingSub now maxAgeSecs).toInt64 scan db).filterMap
    Bytes32.tryFrom

end SyncEngineDb

/-! Callers that share one database. Each closure that is handed to the
connection is one step. -/

/-- A status that is written, and the text that its row held just before. -/
structure StatusChange where
  messageId : Bytes32
  held : Option String
  next : SettlementStatus

def StatusChange.Legal (change : StatusChange) : Prop :=
  ∃ current : SettlementStatus, change.held = some current.asStr ∧
    current.canTransitionTo change.next = true

/-- What a batch writes, update by update. -/
def batchChanges : List StatusUpdate → Database → List StatusChange
  | [], _ => []
  | update :: rest, db =>
      let (after, report) := SyncEngineDb.batchRound (db, ⟨[], []⟩) update
      (report.applied.map fun messageId =>
        ⟨messageId, db.statusText messageId.toVec, update.toStatus⟩) ++
        batchChanges rest after

theorem foldl_batchRound_fst (updates : List StatusUpdate) (db : Database)
    (report other : BatchUpdateReport) :
    (updates.foldl SyncEngineDb.batchRound (db, report)).1 =
      (updates.foldl SyncEngineDb.batchRound (db, other)).1 := by
  induction updates generalizing db report other with
  | nil => rfl
  | cons update rest induction =>
      rw [List.foldl_cons, List.foldl_cons]
      rcases SyncEngineDb.batchRound_cases db update with
        ⟨current, _, _, round⟩ | ⟨reason, round⟩
      · rw [round, round]
        exact induction _ _ _
      · rw [round, round]
        exact induction _ _ _

theorem batchStatements_cons (update : StatusUpdate)
    (rest : List StatusUpdate) (db : Database) :
    (SyncEngineDb.batchStatements (update :: rest) db).1 =
      (SyncEngineDb.batchStatements rest
        (SyncEngineDb.batchRound (db, ⟨[], []⟩) update).1).1 :=
  foldl_batchRound_fst rest _ _ _

theorem batchChanges_legal (updates : List StatusUpdate) (db : Database) :
    ∀ change ∈ batchChanges updates db, change.Legal := by
  induction updates generalizing db with
  | nil => simp [batchChanges]
  | cons update rest induction =>
      rcases SyncEngineDb.batchRound_cases db update with
        ⟨current, held, legal, round⟩ | ⟨reason, round⟩
      · simp only [batchChanges, round, List.nil_append, List.map_cons,
          List.map_nil, List.singleton_append, List.forall_mem_cons]
        exact ⟨⟨current, held, legal⟩, induction _⟩
      · simp only [batchChanges, round, List.map_nil, List.nil_append]
        exact induction _

/-- What a batch makes of the text of one row. -/
theorem statusText_batchStatements (updates : List StatusUpdate)
    (db : Database) (key : Bytes) :
    (SyncEngineDb.batchStatements updates db).1.statusText key =
        db.statusText key ∨
      (db.statusText key ≠ some SettlementStatus.settled.asStr ∧
        ∃ next : SettlementStatus,
          (SyncEngineDb.batchStatements updates db).1.statusText key =
            some next.asStr) := by
  induction updates generalizing db with
  | nil => exact Or.inl rfl
  | cons update rest induction =>
      rw [batchStatements_cons]
      rcases SyncEngineDb.batchRound_cases db update with
        ⟨current, held, legal, round⟩ | ⟨reason, round⟩
      · simp only [round]
        have later := induction ((db.replaceStatus update.messageId.toVec
          update.toStatus update.updatedAt).appendHistory
          update.messageId.toVec current.asStr update.toStatus
          update.updatedAt)
        rw [Database.statusText_appendHistory,
          Database.statusText_replaceStatus] at later
        by_cases target : key = update.messageId.toVec
        · have unsettled :=
            SettlementStatus.ne_settled_of_canTransitionTo legal
          refine Or.inr ⟨by simpa [target, held] using unsettled, ?_⟩
          rw [if_pos target] at later
          rcases later with same | ⟨_, moved⟩
          · exact ⟨_, same⟩
          · exact moved
        · rwa [if_neg target] at later
      · simp only [round]
        exact induction db

structure SharedDb (Caller : Type) where
  db : Database
  /-- What the sweep of each caller has selected and not yet written, with the
  time that it passes on. -/
  unwritten : Caller → List (Bytes32 × UInt64)

inductive SharedAction
  | batch (updates : List StatusUpdate) (write : Write)
  | select (maxAgeSecs now : UInt64)
      (scan : HashMap.Listing Bytes QueuedEnvelopeColumns)
  | fail (writes : StatusWrites)

structure SharedLabel (Caller : Type) where
  caller : Caller
  action : SharedAction
  changes : List StatusChange

namespace SharedDb

variable {Caller : Type}

/-- When a sweep writes, the row says neither `settled` nor `failed`. -/
def MeetsOpenRow (state : SharedDb Caller) (label : SharedLabel Caller) :
    Prop :=
  ∀ writes messageId now rest, label.action = .fail writes →
    writes.replace.takesEffect = true →
    state.unwritten label.caller = (messageId, now) :: rest →
    state.db.statusText messageId.toVec ≠
        some SettlementStatus.settled.asStr ∧
      state.db.statusText messageId.toVec ≠ some SettlementStatus.failed.asStr

def WritesLegally (trace : List (SharedLabel Caller)) : Prop :=
  ∀ label ∈ trace, ∀ change ∈ label.changes, change.Legal

theorem writesLegally_snoc {trace : List (SharedLabel Caller)}
    {label : SharedLabel Caller} :
    WritesLegally (trace ++ [label]) ↔
      WritesLegally trace ∧ ∀ change ∈ label.changes, change.Legal := by
  simp only [WritesLegally, List.forall_mem_append,
    List.forall_mem_singleton]

/-- The rows that a sweep has still to write hold statuses. -/
def Selected (state : SharedDb Caller) : Prop :=
  ∀ caller, ∀ write ∈ state.unwritten caller,
    ∃ current : SettlementStatus,
      state.db.statusText write.1.toVec = some current.asStr

variable [DecidableEq Caller]

inductive Step (state : SharedDb Caller) :
    SharedLabel Caller → SharedDb Caller → Prop
  | batch (caller : Caller) (updates : List StatusUpdate) (write : Write)
      (after : Database) (answer : Except SyncEngineError BatchUpdateReport)
      (idle : state.unwritten caller = [])
      (ran : SyncEngineDb.setSettlementStatusBatch updates write state.db =
        .returned after answer) :
      Step state
        ⟨caller, .batch updates write,
          if write.takesEffect then batchChanges updates state.db else []⟩
        { state with db := after }
  | select (caller : Caller) (maxAgeSecs now : UInt64)
      (scan : HashMap.Listing Bytes QueuedEnvelopeColumns)
      (idle : state.unwritten caller = [])
      (scanned : scan.toFinmap = state.db.queuedEnvelopes) :
      Step state ⟨caller, .select maxAgeSecs now scan, []⟩
        { state with
          unwritten := Function.update state.unwritten caller
            ((SyncEngineDb.staleIds maxAgeSecs now scan state.db).map
              fun messageId => (messageId, now)) }
  | fail (caller : Caller) (writes : StatusWrites) (messageId : Bytes32)
      (now : UInt64) (rest : List (Bytes32 × UInt64)) (after : Database)
      (answer : Except SyncEngineError Unit)
      (pending : state.unwritten caller = (messageId, now) :: rest)
      (ran : SyncEngineDb.setSettlementStatus messageId .failed now writes
        state.db = .returned after answer) :
      Step state
        ⟨caller, .fail writes,
          if writes.replace.takesEffect then
            [⟨messageId, state.db.statusText messageId.toVec, .failed⟩]
          else []⟩
        { db := after
          unwritten := Function.update state.unwritten caller
            -- the first error ends the sweep
            (if answer.isOk then rest else []) }

/-- Runs of the callers from `state` on. -/
def system (state : SharedDb Caller) :
    System (SharedDb Caller) (SharedLabel Caller) where
  init start := start = state
  step := Step

end SharedDb

namespace SyncEngineDb

theorem text_of_mem_staleIds {maxAgeSecs now : UInt64}
    {scan : HashMap.Listing Bytes QueuedEnvelopeColumns} {db : Database}
    {messageId : Bytes32}
    (member : messageId ∈ staleIds maxAgeSecs now scan db) :
    db.statusText messageId.toVec = some SettlementStatus.queued.asStr ∨
      db.statusText messageId.toVec =
        some SettlementStatus.propagating.asStr := by
  obtain ⟨bytes, selected, converted⟩ := List.mem_filterMap.mp member
  obtain ⟨row, scanned, rfl⟩ := List.mem_map.mp selected
  rw [Bytes32.toVec_of_tryFrom converted]
  exact (of_decide_eq_true (List.mem_filter.mp scanned).2).2

/-- What an answered write of one status leaves in the table. -/
theorem setSettlementStatus_returned {messageId : Bytes32}
    {status : SettlementStatus} {updatedAt : UInt64} {writes : StatusWrites}
    {db after : Database} {answer : Except SyncEngineError Unit}
    (ran : setSettlementStatus messageId status updatedAt writes db =
      .returned after answer) (key : Bytes) :
    after.statusText key =
      if writes.replace.takesEffect = true ∧ key = messageId.toVec then
        some status.asStr
      else db.statusText key := by
  have left := statusText_setSettlementStatus messageId status updatedAt
    writes db key
  rwa [ran] at left

theorem setSettlementStatusBatch_returned {updates : List StatusUpdate}
    {write : Write} {db after : Database}
    {answer : Except SyncEngineError BatchUpdateReport}
    (ran : setSettlementStatusBatch updates write db =
      .returned after answer) :
    after = if write.takesEffect then (batchStatements updates db).1
      else db := by
  cases write <;> simp [setSettlementStatusBatch, Write.run] at ran <;>
    simp [Write.takesEffect, ran.1]

end SyncEngineDb

namespace SharedDb

variable {Caller : Type} [DecidableEq Caller]
  {state after : SharedDb Caller} {label : SharedLabel Caller}

/-- A row that says a status goes on saying one. -/
theorem Step.tracked (step : Step state label after) (key : Bytes)
    (tracked : ∃ current : SettlementStatus,
      state.db.statusText key = some current.asStr) :
    ∃ current : SettlementStatus,
      after.db.statusText key = some current.asStr := by
  cases step with
  | batch caller updates write after answer idle ran =>
      rw [SyncEngineDb.setSettlementStatusBatch_returned ran]
      split
      · rcases statusText_batchStatements updates state.db key with
          same | ⟨_, moved⟩
        · rwa [same]
        · exact moved
      · exact tracked
  | select caller maxAgeSecs now scan idle scanned => exact tracked
  | fail caller writes messageId now rest after answer pending ran =>
      rw [SyncEngineDb.setSettlementStatus_returned ran]
      split
      · exact ⟨_, rfl⟩
      · exact tracked

theorem Step.selected (step : Step state label after)
    (selected : state.Selected) : after.Selected := by
  have tracked := step.tracked
  cases step with
  | batch caller updates write after answer idle ran =>
      intro other write member
      exact tracked _ (selected other write member)
  | select caller maxAgeSecs now scan idle scanned =>
      intro other write member
      by_cases same : other = caller
      · subst same
        dsimp only at member
        rw [Function.update_self] at member
        obtain ⟨messageId, stale, rfl⟩ := List.mem_map.mp member
        rcases SyncEngineDb.text_of_mem_staleIds stale with text | text
        · exact ⟨_, text⟩
        · exact ⟨_, text⟩
      · dsimp only at member
        rw [Function.update_of_ne same] at member
        exact selected other write member
  | fail caller writes messageId now rest after answer pending ran =>
      intro other write member
      apply tracked
      by_cases same : other = caller
      · subst same
        dsimp only at member
        rw [Function.update_self] at member
        apply selected other write
        rw [pending]
        split at member
        · exact List.mem_cons_of_mem _ member
        · simp at member
      · dsimp only at member
        rw [Function.update_of_ne same] at member
        exact selected other write member

theorem Step.legal (step : Step state label after)
    (selected : state.Selected) (meets : state.MeetsOpenRow label) :
    ∀ change ∈ label.changes, change.Legal := by
  cases step with
  | batch caller updates write after answer idle ran =>
      dsimp only
      split
      · exact batchChanges_legal updates state.db
      · simp
  | select caller maxAgeSecs now scan idle scanned => simp
  | fail caller writes messageId now rest after answer pending ran =>
      dsimp only
      split
      · rename_i replaced
        obtain ⟨unsettled, unfailed⟩ :=
          meets writes messageId now rest rfl replaced pending
        obtain ⟨current, held⟩ := selected caller (messageId, now)
          (by rw [pending]; exact List.mem_cons_self)
        rw [List.forall_mem_singleton]
        refine ⟨current, held,
          SettlementStatus.canTransitionTo_failed.mpr ⟨?_, ?_⟩⟩
        · rintro rfl
          exact unsettled held
        · rintro rfl
          exact unfailed held
      · simp

theorem Step.meetsOpenRow (step : Step state label after)
    (legal : ∀ change ∈ label.changes, change.Legal) :
    state.MeetsOpenRow label := by
  intro writes messageId now rest failing replaced pending
  cases step with
  | batch caller updates write after answer idle ran => cases failing
  | select caller maxAgeSecs now scan idle scanned => cases failing
  | fail caller other otherId otherNow otherRest after answer first ran =>
      cases failing
      obtain ⟨same, _⟩ := List.cons.inj (pending.symm.trans first)
      cases same
      dsimp only at legal
      rw [if_pos replaced, List.forall_mem_singleton] at legal
      obtain ⟨current, held, allowed⟩ := legal
      obtain ⟨unsettled, unfailed⟩ :=
        SettlementStatus.canTransitionTo_failed.mp allowed
      have text : state.db.statusText messageId.toVec = some current.asStr :=
        held
      rw [text]
      simp [unsettled, unfailed]

theorem Step.settledKept (step : Step state label after)
    (legal : ∀ change ∈ label.changes, change.Legal) :
    SettledKept state.db after.db := by
  intro key settled
  cases step with
  | batch caller updates write after answer idle ran =>
      rw [SyncEngineDb.setSettlementStatusBatch_returned ran]
      split
      · rcases statusText_batchStatements updates state.db key with
          same | ⟨unsettled, _⟩
        · rwa [same]
        · exact absurd settled unsettled
      · exact settled
  | select caller maxAgeSecs now scan idle scanned => exact settled
  | fail caller writes messageId now rest after answer pending ran =>
      rw [SyncEngineDb.setSettlementStatus_returned ran]
      split
      · rename_i written
        obtain ⟨replaced, rfl⟩ := written
        dsimp only at legal
        rw [if_pos replaced, List.forall_mem_singleton] at legal
        obtain ⟨current, held, allowed⟩ := legal
        obtain ⟨unsettled, _⟩ :=
          SettlementStatus.canTransitionTo_failed.mp allowed
        rw [settled, Option.some_inj, SettlementStatus.asStr_inj] at held
        exact absurd held.symm unsettled
      · exact settled

theorem selected_of_run {start : SharedDb Caller}
    {guard : List (SharedLabel Caller) → SharedDb Caller →
      SharedLabel Caller → Prop} {trace : List (SharedLabel Caller)}
    (idle : ∀ caller, start.unwritten caller = [])
    (run : start.system.RunUnder guard trace state) : state.Selected := by
  refine run.invariant (fun _ state => state.Selected) ?_ ?_
  · rintro _ rfl caller write member
    simp [idle caller] at member
  · intro trace before label later _ selected _ step
    exact step.selected selected

theorem settledKept_of_run {start : SharedDb Caller}
    {trace : List (SharedLabel Caller)} (run : start.system.Run trace state)
    (legal : WritesLegally trace) : SettledKept start.db state.db := by
  induction run with
  | start initial =>
      cases initial
      exact fun _ settled => settled
  | snoc run step _ induction =>
      obtain ⟨before, last⟩ := writesLegally_snoc.mp legal
      have kept := Step.settledKept step last
      exact fun key settled => kept key (induction before key settled)

/-- In a run of callers that share a database, every status that is written is
legal from the one that its row held, and no settled row changes, just when
every sweep that writes a row finds it neither settled nor failed. -/
theorem settled_terminal_iff (start : SharedDb Caller)
    (idle : ∀ caller, start.unwritten caller = [])
    (trace : List (SharedLabel Caller)) (state : SharedDb Caller)
    (run : start.system.Run trace state) :
    start.system.RunUnder (fun _ => MeetsOpenRow) trace state ↔
      WritesLegally trace ∧ ∀ before after middle, trace = before ++ after →
        start.system.Run before middle → middle.system.Run after state →
        SettledKept middle.db state.db := by
  constructor
  · intro guarded
    have legal : WritesLegally trace := by
      refine guarded.invariant (fun trace _ => WritesLegally trace)
        (by simp [WritesLegally]) ?_
      intro trace before label later run earlier meets step
      exact writesLegally_snoc.mpr
        ⟨earlier, Step.legal step (selected_of_run idle run) meets⟩
    refine ⟨legal, ?_⟩
    rintro before after middle rfl _ later
    exact settledKept_of_run later fun label member =>
      legal label (List.mem_append_right _ member)
  · rintro ⟨legal, _⟩
    refine (run.inheriting (fun trace label whole =>
      (writesLegally_snoc.mp whole).1) legal).weaken ?_
    intro trace before label later _ step whole
    exact Step.meetsOpenRow step (writesLegally_snoc.mp whole).2

/-! A propagating row that one caller sweeps and another one settles. -/

def sampleId : Bytes32 := Vector.replicate 32 1

def sampleColumns : QueuedEnvelopeColumns := ⟨"GA", 7, 0, 5, []⟩

def sampleScan : HashMap.Listing Bytes QueuedEnvelopeColumns :=
  (∅ : HashMap.Listing Bytes QueuedEnvelopeColumns).insert sampleId.toVec
    sampleColumns

def sampleStart : SharedDb Bool where
  db := (Database.empty.replaceEnvelope sampleId.toVec
    sampleColumns).replaceStatus sampleId.toVec .propagating 5
  unwritten _ := []

def sampleSelected : SharedDb Bool :=
  { sampleStart with
    unwritten := Function.update sampleStart.unwritten true
      ((SyncEngineDb.staleIds 10 100 sampleScan sampleStart.db).map
        fun messageId => (messageId, 100)) }

def sampleSettled : SharedDb Bool :=
  { sampleSelected with
    db := (SyncEngineDb.batchStatements [⟨sampleId, .settled, 50⟩]
      sampleSelected.db).1 }

/-- `state` after the sweep has written the row. -/
def sampleFailed (state : SharedDb Bool) : SharedDb Bool where
  db := (state.db.replaceStatus sampleId.toVec .failed 100).appendHistory
    sampleId.toVec ((state.db.statusText sampleId.toVec).getD "") .failed 100
  unwritten := Function.update state.unwritten true []

def sampleSelect : SharedLabel Bool :=
  ⟨true, .select 10 100 sampleScan, []⟩

def sampleSettle : SharedLabel Bool :=
  ⟨false, .batch [⟨sampleId, .settled, 50⟩] .applied,
    [⟨sampleId, some "propagating", .settled⟩]⟩

def sampleFail (held : String) : SharedLabel Bool :=
  ⟨true, .fail ⟨.served, .applied, .applied⟩,
    [⟨sampleId, some held, .failed⟩]⟩

theorem sampleStart_select : Step sampleStart sampleSelect sampleSelected :=
  .select true 10 100 sampleScan rfl rfl

theorem sampleSelected_settle :
    Step sampleSelected sampleSettle sampleSettled :=
  .batch false [⟨sampleId, .settled, 50⟩] .applied sampleSettled.db
    (.ok ⟨[sampleId], []⟩) rfl rfl

theorem sampleSelected_fail :
    Step sampleSelected (sampleFail "propagating")
      (sampleFailed sampleSelected) :=
  .fail true ⟨.served, .applied, .applied⟩ sampleId 100 [] _ (.ok ()) rfl rfl

theorem sampleSettled_fail :
    Step sampleSettled (sampleFail "settled") (sampleFailed sampleSettled) :=
  .fail true ⟨.served, .applied, .applied⟩ sampleId 100 [] _ (.ok ()) rfl rfl

theorem sample_not_writesLegally :
    ¬ WritesLegally [sampleSelect, sampleSettle, sampleFail "settled"] := by
  intro legal
  obtain ⟨current, held, allowed⟩ :=
    legal (sampleFail "settled") (by simp) _ List.mem_cons_self
  have text : SettlementStatus.settled.asStr = current.asStr :=
    Option.some_inj.mp held
  exact (SettlementStatus.canTransitionTo_failed.mp allowed).1
    (SettlementStatus.asStr_injective text).symm

theorem sample_run : sampleStart.system.Run
    [sampleSelect, sampleSettle, sampleFail "settled"]
    (sampleFailed sampleSettled) :=
  .snoc (.snoc (.snoc (.start rfl) sampleStart_select trivial)
    sampleSelected_settle trivial) sampleSettled_fail trivial

/-- Between the selection of a row and the write, another caller settles it. -/
theorem settled_not_terminal :
    ∃ (start : SharedDb Bool) (trace : List (SharedLabel Bool))
      (state : SharedDb Bool),
      (∀ caller, start.unwritten caller = []) ∧
      start.system.Run trace state ∧ ¬ WritesLegally trace ∧
      ∃ before after middle, trace = before ++ after ∧
        start.system.Run before middle ∧ middle.system.Run after state ∧
        ¬ SettledKept middle.db state.db := by
  refine ⟨sampleStart, _, _, fun _ => rfl, sample_run,
    sample_not_writesLegally, [sampleSelect, sampleSettle], _, sampleSettled,
    rfl, ?_, ?_, ?_⟩
  · exact .snoc (.snoc (.start rfl) sampleStart_select trivial)
      sampleSelected_settle trivial
  · exact .snoc (.start rfl) sampleSettled_fail trivial
  · intro kept
    exact absurd (kept sampleId.toVec (by decide +kernel)) (by decide +kernel)

theorem settled_terminal_iff_sample :
    WritesLegally [sampleSelect, sampleFail "propagating"] ∧
      ¬ sampleStart.system.RunUnder (fun _ => MeetsOpenRow)
        [sampleSelect, sampleSettle, sampleFail "settled"]
        (sampleFailed sampleSettled) := by
  constructor
  · have selects : sampleStart.MeetsOpenRow sampleSelect := by
      intro writes messageId now rest failing
      cases failing
    have fails : sampleSelected.MeetsOpenRow (sampleFail "propagating") := by
      intro writes messageId now rest _ _ pending
      cases pending
      decide +kernel
    exact ((settled_terminal_iff sampleStart (fun _ => rfl) _ _
      (.snoc (.snoc (.start rfl) sampleStart_select trivial)
        sampleSelected_fail trivial)).mp
      (.snoc (.snoc (.start rfl) sampleStart_select selects)
        sampleSelected_fail fails)).1
  · intro guarded
    exact sample_not_writesLegally
      ((settled_terminal_iff sampleStart (fun _ => rfl) _ _ sample_run).mp
        guarded).1

end SharedDb

end StellarConduit
