import SyncEngine.Engine.Replay
import SyncEngine.Engine.Sound

namespace StellarConduit

open Data

/-! Which envelopes are handed to the mesh, and in what state they are then. -/

variable {crates : Crates} {file : DatabaseFile}

/-! Every row comes from a payment. -/

def Recorded (crates : Crates) (trace : List Label) (db : Database) : Prop :=
  ∀ key record, db.record crates key = some record →
    record ∈ payments crates trace

/-- No two payments have the same identifier. -/
def FreshIds (crates : Crates) (trace : List Label) : Prop :=
  ((payments crates trace).map fun payment =>
    payment.envelope.messageId).Nodup

instance (crates : Crates) (trace : List Label) :
    Decidable (FreshIds crates trace) :=
  inferInstanceAs (Decidable (List.Nodup _))

theorem FreshIds.of_snoc {trace : List Label} {label : Label}
    (fresh : FreshIds crates (trace ++ [label])) : FreshIds crates trace := by
  rw [FreshIds, payments_snoc, List.map_append] at fresh
  exact (List.nodup_append.mp fresh).1

theorem FreshIds.ne_of_committed {trace : List Label} {label : Label}
    {payment earlier : QueuedEnvelopeRecord}
    (fresh : FreshIds crates (trace ++ [label]))
    (committed : label.committed crates = some payment)
    (member : earlier ∈ payments crates trace) :
    earlier.envelope.messageId ≠ payment.envelope.messageId := by
  rw [FreshIds, payments_snoc, committed, List.map_append] at fresh
  exact (List.nodup_append.mp fresh).2.2 _ (List.mem_map_of_mem member) _
    (by simp)

theorem recorded_of_effect {trace : List Label} {device after : Device}
    {label : Label} (recorded : Recorded crates trace device.db)
    (effect : Effect crates device label after) :
    Recorded crates (trace ++ [label]) after.db := by
  have kept : Recorded crates (trace ++ [label]) device.db := by
    intro key record found
    rw [payments_snoc]
    exact List.mem_append_left _ (recorded key record found)
  cases effect with
  | paid accepts committed survives =>
      intro key record found
      rw [Database.record_enqueued accepts.encoded] at found
      split at found
      · obtain rfl := Option.some_inj.mp found
        simp [committed]
      · exact kept key record found
  | marked held legal envelopes reservations status survives =>
      intro key record found
      rw [Database.record, envelopes] at found
      exact kept key record found
  | _ => exact kept

theorem run_recorded {guard : List Label → Device → Label → Prop}
    {trace : List Label} {device : Device}
    (run : (fileEngine crates file).RunUnder guard trace device) :
    Recorded crates trace device.db := by
  refine run_invariant (fun trace device =>
    Recorded crates trace device.db) ?_ ?_ run
  · intro key record found
    simp [Database.record, Database.empty] at found
  · intro _ _ _ _ _ recorded _ effect
    exact recorded_of_effect recorded effect

theorem Recorded.payment_of_status {trace : List Label} {db : Database}
    (recorded : Recorded crates trace db) (intact : db.Intact crates)
    {messageId : Bytes32} (present : (db.statusText messageId.toVec).isSome) :
    ∃ payment ∈ payments crates trace,
      payment.envelope.messageId = messageId := by
  obtain ⟨record, found, same⟩ := intact.record_of_status present
  exact ⟨record, recorded _ _ found, same⟩

/-! With distinct identifiers an envelope is queued at most once, and not again
once it has been dispatched. -/

def OutboundTxQueue.ids (queue : OutboundTxQueue) : List Bytes32 :=
  queue.entries.map fun entry => entry.envelope.messageId

def Label.dispatchedId (label : Label) : Option Bytes32 :=
  label.dispatched.map TransactionEnvelope.messageId

/-- The identifiers handed out so far have left the state `Queued` for good,
and the queue holds others, each once. -/
structure Dispatching (handedOut : List Bytes32) (device : Device) : Prop where
  done : ∀ messageId ∈ handedOut,
    (device.db.statusText messageId.toVec).isSome ∧
      device.db.statusText messageId.toVec ≠
        some SettlementStatus.queued.asStr
  distinct : ∀ engine, device.engine = some engine → engine.queue.ids.Nodup
  pending : ∀ engine, device.engine = some engine →
    ∀ messageId ∈ engine.queue.ids, messageId ∉ handedOut

def handedOut (trace : List Label) : List Bytes32 :=
  trace.filterMap Label.dispatchedId

@[simp] theorem handedOut_nil : handedOut [] = [] := rfl

theorem handedOut_snoc (trace : List Label) (label : Label) :
    handedOut (trace ++ [label]) =
      handedOut trace ++ label.dispatchedId.toList := by
  simp only [handedOut, List.filterMap_append, List.filterMap_cons,
    List.filterMap_nil]
  cases label.dispatchedId <;> rfl

theorem ids_of_pop {engine : SyncEngine} {head : QueuedTx}
    {rest : BinaryHeap QueuedTx}
    (popped : engine.queue.heap.pop = some (head, rest)) :
    engine.queue.ids.Perm (head.envelope.messageId ::
      rest.toList.map fun entry => entry.envelope.messageId) :=
  (BinaryHeap.toList_pop_perm popped).map _

theorem ids_withPayment (engine : SyncEngine) (payment : QueuedEnvelopeRecord)
    (taken : SequenceReservationManager) :
    (engine.withPayment payment taken).queue.ids.Perm
      (payment.envelope.messageId :: engine.queue.ids) :=
  (engine.queue.heap.toList_push_perm payment.queuedTx).map _

namespace Dispatching

variable {out : List Bytes32} {db after : Database} {engine : SyncEngine}

theorem of_db (done : ∀ messageId ∈ out,
      (db.statusText messageId.toVec).isSome ∧
        db.statusText messageId.toVec ≠ some SettlementStatus.queued.asStr) :
    Dispatching out ⟨db, none⟩ :=
  ⟨done, by simp, by simp⟩

theorem of_survives {survivor : Option SyncEngine}
    (survives : Survives survivor engine)
    (done : ∀ messageId ∈ out, (db.statusText messageId.toVec).isSome ∧
      db.statusText messageId.toVec ≠ some SettlementStatus.queued.asStr)
    (distinct : engine.queue.ids.Nodup)
    (pending : ∀ messageId ∈ engine.queue.ids, messageId ∉ out) :
    Dispatching out ⟨db, survivor⟩ := by
  rcases survives with rfl | rfl
  · exact of_db done
  · refine ⟨done, ?_, ?_⟩ <;>
    · intro other same
      obtain rfl := Option.some_inj.mp same
      assumption

theorem done_of_status {written : Bytes32} {next : SettlementStatus}
    (done : ∀ messageId ∈ out, (db.statusText messageId.toVec).isSome ∧
      db.statusText messageId.toVec ≠ some SettlementStatus.queued.asStr)
    (moved : next ≠ .queued)
    (status : ∀ key, after.statusText key =
      if key = written.toVec then some next.asStr else db.statusText key) :
    ∀ messageId ∈ written :: out, (after.statusText messageId.toVec).isSome ∧
      after.statusText messageId.toVec ≠
        some SettlementStatus.queued.asStr := by
  intro messageId member
  rw [status]
  split
  · simp [moved]
  · rename_i other
    rcases List.mem_cons.mp member with rfl | old
    · exact absurd rfl other
    · exact done messageId old

end Dispatching

theorem dispatching_of_effect {trace : List Label} {device after : Device}
    {label : Label} (fresh : FreshIds crates (trace ++ [label]))
    (sound : device.Sound crates) (recorded : Recorded crates trace device.db)
    (dispatching : Dispatching (handedOut trace) device)
    (effect : Effect crates device label after) :
    Dispatching (handedOut (trace ++ [label])) after := by
  obtain ⟨done, distinct, pending⟩ := dispatching
  rw [handedOut_snoc]
  cases handed : label.dispatchedId with
  | none =>
      rw [Option.toList_none, List.append_nil]
      cases effect with
      | unchanged silent => exact ⟨done, distinct, pending⟩
      | stopped silent => exact .of_db done
      | opened onFile rebuilt =>
          refine .of_survives (.inr rfl) done rebuilt.distinct ?_
          intro messageId member out
          obtain ⟨entry, queued, rfl⟩ := List.mem_map.mp member
          obtain ⟨record, _, isQueued, rfl⟩ :=
            (rebuilt.entries entry).mp queued
          exact (done _ out).2 isQueued
      | @seededInMemory db engine account baseline reply =>
          exact .of_survives (.inr rfl) done (distinct engine rfl)
            (pending engine rfl)
      | @seeded db engine survivor account baseline write reply survives =>
          exact .of_survives survives done (distinct engine rfl)
            (pending engine rfl)
      | @rolledBack db engine request stamp unixNow write error =>
          exact .of_survives (.inr rfl) done (distinct engine rfl)
            (pending engine rfl)
      | @paid db engine survivor request stamp unixNow write reply payment
          envelopeBytes taken accepts committed survives =>
          have unknown : ¬ (db.statusText
              payment.envelope.messageId.toVec).isSome := by
            intro present
            obtain ⟨earlier, member, same⟩ :=
              recorded.payment_of_status sound.intact present
            exact fresh.ne_of_committed committed member same
          have notQueued : payment.envelope.messageId ∉ engine.queue.ids := by
            intro member
            obtain ⟨entry, queued, same⟩ := List.mem_map.mp member
            exact unknown (same ▸ (sound.engine _ rfl).stored entry queued)
          have ids := ids_withPayment engine payment taken
          refine .of_survives survives ?_ ?_ ?_
          · intro messageId out
            have other : messageId.toVec ≠
                payment.envelope.messageId.toVec :=
              fun same => unknown (same ▸ (done messageId out).1)
            rw [Database.statusText_enqueued, if_neg other]
            exact done messageId out
          · exact ids.nodup_iff.mpr
              (List.nodup_cons.mpr ⟨notQueued, distinct _ rfl⟩)
          · intro messageId member out
            rcases List.mem_cons.mp (ids.mem_iff.mp member) with rfl | old
            · exact unknown (done _ out).1
            · exact pending _ rfl messageId old out
      | dispatched popped =>
          simp [Label.dispatchedId, Label.dispatched] at handed
      | @dispatchCut db engine head rest unixNow popped =>
          have moved := Dispatching.done_of_status done
            (by decide : SettlementStatus.propagating ≠ .queued)
            fun key => db.statusText_replaceStatus
              head.envelope.messageId.toVec key .propagating unixNow
          exact .of_db fun messageId out =>
            moved messageId (List.mem_cons_of_mem _ out)
      | @marked db after engine survivor messageId current next updatedAt
          writes reply held legal envelopes reservations status survives =>
          have moved := Dispatching.done_of_status done
            (SettlementStatus.ne_queued_of_canTransitionTo legal) status
          have kept := fun messageId out =>
            moved messageId (List.mem_cons_of_mem _ out)
          rcases survives with rfl | ⟨_, ⟨_, rfl⟩ | ⟨_, rfl⟩⟩
          · exact .of_db kept
          · exact .of_survives (.inr rfl) kept (distinct engine rfl)
              (pending engine rfl)
          · exact .of_survives (.inr rfl) kept (distinct engine rfl)
              (pending engine rfl)
  | some messageId =>
      cases effect with
      | unchanged silent =>
          simp [Label.dispatchedId, silent.dispatched] at handed
      | stopped silent =>
          simp [Label.dispatchedId, silent.dispatched] at handed
      | @dispatched db engine head rest unixNow popped =>
          obtain rfl : head.envelope.messageId = messageId :=
            Option.some_inj.mp handed
          have ids := ids_of_pop popped
          obtain ⟨absent, restDistinct⟩ :=
            List.nodup_cons.mp (ids.nodup_iff.mp (distinct engine rfl))
          have moved := Dispatching.done_of_status done
            (by decide : SettlementStatus.propagating ≠ .queued)
            fun key => db.statusText_replaceStatus
              head.envelope.messageId.toVec key .propagating unixNow
          refine .of_survives (.inr rfl) ?_ restDistinct ?_
          · intro messageId out
            refine moved messageId ?_
            simpa [or_comm] using out
          · intro messageId member out
            rcases List.mem_append.mp out with old | new
            · exact pending engine rfl messageId
                (ids.mem_iff.mpr (List.mem_cons_of_mem _ member)) old
            · obtain rfl := List.mem_singleton.mp new
              exact absent member
      | _ => simp [Label.dispatchedId, Label.dispatched] at handed

theorem run_dispatching {guard : List Label → Device → Label → Prop}
    {trace : List Label} {device : Device}
    (run : (fileEngine crates file).RunUnder guard trace device)
    (fresh : FreshIds crates trace) :
    Dispatching (handedOut trace) device := by
  refine run_invariant (fun trace device => FreshIds crates trace →
    Dispatching (handedOut trace) device) ?_ ?_ run fresh
  · exact fun _ => ⟨by simp, by simp, by simp⟩
  · intro _ _ _ _ prior dispatching _ effect fresh
    exact dispatching_of_effect fresh (run_sound prior) (run_recorded prior)
      (dispatching fresh.of_snoc) effect

theorem id_of_dispatched {device after : Device} {label : Label}
    {messageId : Bytes32} (effect : Effect crates device label after)
    (handed : label.dispatchedId = some messageId) :
    ∃ engine, device.engine = some engine ∧ messageId ∈ engine.queue.ids := by
  obtain ⟨envelope, dispatched, rfl⟩ := Option.map_eq_some_iff.mp handed
  obtain ⟨engine, head, rest, alive, popped, rfl⟩ :=
    head_of_dispatched effect dispatched
  exact ⟨engine, alive, List.mem_map_of_mem (BinaryHeap.mem_of_pop popped)⟩

/-- No envelope is handed to the mesh twice, whatever fails and wherever a
crash cuts a call off. -/
theorem dispatched_at_most_once {trace : List Label} {device : Device}
    (run : (fileEngine crates file).Run trace device)
    (fresh : FreshIds crates trace) : (handedOut trace).Nodup := by
  have freshRun := run.inheriting (fun _ _ => FreshIds.of_snoc) fresh
  refine freshRun.emitted_nodup Label.dispatchedId ?_
  intro before device label after messageId prior freshAfter stepped handed
  obtain ⟨engine, alive, queued⟩ :=
    id_of_dispatched (step_effect (run_sound prior) stepped) handed
  exact (run_dispatching prior freshAfter.of_snoc).pending engine alive
    messageId queued

/-- Three payments, two of them handed out before and after a crash in which the
head of the queue was marked and not popped. -/
theorem dispatched_at_most_once_three :
    ∃ trace, (handedOut trace).length = 2 ∧ (handedOut trace).Nodup := by
  obtain ⟨trace, device, run, fresh, two⟩ := exists_run Sample.crates
    Sample.file (fun _ _ _ => True)
    (fun trace _ => FreshIds Sample.crates trace ∧
      (handedOut trace).length = 2)
    [Sample.openEmpty,
      .queuePayment (Sample.request "AQ") (Sample.stamp 1) 1000 .applied,
      .queuePayment (Sample.request "Ag") (Sample.stamp 2) 1001 .applied,
      .queuePayment (Sample.request "Aw") (Sample.stamp 3) 1002 .applied,
      .nextToDispatch 1003 .applied,
      .nextToDispatch 1004 .lostAfter,
      Sample.reopen 3 [Sample.row 3 1002, Sample.row 1 1000,
        Sample.row 2 1001] (by decide +kernel),
      .nextToDispatch 1005 .applied]
    (by decide +kernel)
  exact ⟨trace, two, dispatched_at_most_once run fresh⟩

/-! Every payment whose durable status is `Queued` is in the queue. -/

/-- The envelopes that repeated calls hand out while their writes succeed, one
call for each reading of the clock. -/
def SyncEngine.dispatchAll (engine : SyncEngine) (db : Database) :
    List UInt64 → List TransactionEnvelope
  | [] => []
  | unixNow :: later =>
      match engine.nextToDispatch unixNow .applied db with
      | .returned db (engine, some envelope) =>
          envelope :: engine.dispatchAll db later
      | .returned _ (_, none) => []
      | .crashed _ => []

theorem SyncEngine.dispatchAll_perm {engine : SyncEngine}
    (onFile : engine.dispatchConn = .file) (db : Database)
    (readings : List UInt64) (enough : engine.queue.len ≤ readings.length) :
    (engine.dispatchAll db readings).Perm
      (engine.queue.entries.map QueuedTx.envelope) := by
  induction readings generalizing engine db with
  | nil =>
      have empty : engine.queue.entries = [] := by
        apply List.eq_nil_of_length_eq_zero
        rw [OutboundTxQueue.entries, BinaryHeap.length_toList]
        exact Nat.le_zero.mp enough
      rw [empty]
      exact List.Perm.refl _
  | cons unixNow later induction =>
      rcases SyncEngine.nextToDispatch_cases onFile unixNow .applied db with
        ⟨empty, outcome⟩ | ⟨head, rest, popped, outcome⟩
      · rw [dispatchAll, outcome, empty]
        exact List.Perm.refl _
      · have taken := BinaryHeap.toList_pop_perm popped
        have shorter : (engine.withoutHead head rest).queue.len ≤
            later.length := by
          have sizes := taken.length_eq
          rw [List.length_cons, BinaryHeap.length_toList,
            BinaryHeap.length_toList] at sizes
          rw [OutboundTxQueue.len, sizes] at enough
          exact Nat.le_of_succ_le_succ enough
        have handed := induction
          (show (engine.withoutHead head rest).dispatchConn = .file from onFile)
          (db.replaceStatus head.envelope.messageId.toVec .propagating
            unixNow) shorter
        rw [dispatchAll, outcome]
        exact (handed.cons head.envelope).trans
          (taken.map QueuedTx.envelope).symm

theorem filter_eq_singleton [DecidableEq κ] {list : List α} {key : α → κ}
    {value : α} (distinct : (list.map key).Nodup) (member : value ∈ list) :
    list.filter (fun other => key other = key value) = [value] := by
  induction list with
  | nil => simp at member
  | cons first rest induction =>
      obtain ⟨absent, restDistinct⟩ := List.nodup_cons.mp distinct
      rcases List.mem_cons.mp member with rfl | later
      · have none : rest.filter (fun other => key other = key value) = [] := by
          rw [List.filter_eq_nil_iff]
          intro other inRest same
          exact absent (List.mem_map.mpr ⟨other, inRest, by simpa using same⟩)
        rw [List.filter_cons_of_pos (by simp), none]
      · have different : key first ≠ key value := by
          intro same
          exact absent (same ▸ List.mem_map_of_mem later)
        rw [List.filter_cons_of_neg (by simpa using different),
          induction restDistinct later]

/-- In every reachable state the queue in memory holds each payment whose
durable status is `Queued`, as it was stored, so that dispatching hands it out;
and it holds it once if identifiers are not repeated. -/
theorem queued_payment_kept {trace : List Label} {device : Device}
    (run : (fileEngine crates file).Run trace device) {engine : SyncEngine}
    (alive : device.engine = some engine) {messageId : Bytes32}
    (queued : device.db.statusText messageId.toVec =
      some SettlementStatus.queued.asStr) :
    ∃ payment ∈ payments crates trace,
      device.db.record crates messageId.toVec = some payment ∧
      payment.envelope.messageId = messageId ∧
      payment.queuedTx ∈ engine.queue.entries ∧
      (∀ readings : List UInt64, engine.queue.len ≤ readings.length →
        payment.envelope ∈ engine.dispatchAll device.db readings) ∧
      (FreshIds crates trace →
        engine.queue.entries.filter
            (fun entry => entry.envelope.messageId = messageId) =
          [payment.queuedTx]) := by
  have sound := run_sound run
  have engineSound := sound.engine engine alive
  obtain ⟨record, found, rfl⟩ := sound.intact.record_of_status
    (Option.isSome_of_eq_some queued)
  have held := engineSound.complete record found queued
  refine ⟨record, run_recorded run _ _ found, found, rfl, held, ?_, ?_⟩
  · intro readings enough
    have handed := SyncEngine.dispatchAll_perm engineSound.onFile device.db
      readings enough
    exact handed.mem_iff.mpr (List.mem_map_of_mem held)
  · intro fresh
    exact filter_eq_singleton
      ((run_dispatching run fresh).distinct engine alive) held

/-- One payment that could not be dispatched yet. -/
theorem queued_payment_kept_refused :
    ∃ trace device engine,
      (fileEngine Sample.crates Sample.file).Run trace device ∧
      device.engine = some engine ∧
      ∃ payment ∈ payments Sample.crates trace,
        device.db.record Sample.crates (Sample.stamp 1).messageId.toVec =
          some payment ∧
        payment.envelope.messageId = (Sample.stamp 1).messageId ∧
        payment.queuedTx ∈ engine.queue.entries ∧
        (∀ readings : List UInt64, engine.queue.len ≤ readings.length →
          payment.envelope ∈ engine.dispatchAll device.db readings) ∧
        (FreshIds Sample.crates trace →
          engine.queue.entries.filter (fun entry =>
              entry.envelope.messageId = (Sample.stamp 1).messageId) =
            [payment.queuedTx]) := by
  obtain ⟨trace, device, run, queued, someEngine⟩ := exists_run Sample.crates
    Sample.file (fun _ _ _ => True)
    (fun _ device => device.db.statusText (Sample.stamp 1).messageId.toVec =
        some SettlementStatus.queued.asStr ∧ device.engine.isSome = true)
    [Sample.openEmpty,
      .queuePayment (Sample.request "AQ") (Sample.stamp 1) 1000 .applied,
      .nextToDispatch 1001 .refused]
    (by decide +kernel)
  obtain ⟨engine, alive⟩ := Option.isSome_iff_exists.mp someEngine
  exact ⟨trace, device, engine, run, alive,
    queued_payment_kept run alive queued⟩

/-- A device without an engine can open its file again, whatever its calls did
before. -/
theorem open_succeeds {trace : List Label} {device : Device}
    (run : (fileEngine crates file).Run trace device)
    (stopped : device.engine = none) {scans : Scans}
    (enumerate : scans.Enumerate device.db) :
    ∃ engine, (fileEngine crates file).step device
      ⟨.openPath scans .served, .opened (.ok ())⟩ ⟨device.db, some engine⟩ := by
  obtain ⟨engine, opened, _, _⟩ :=
    SyncEngine.openPath_ok (run_sound run).intact file.path enumerate
  exact ⟨engine, enumerate, by simp [Device.perform, stopped, opened]⟩

/-! A settlement marked for an envelope that still is in the queue does not take
it out of there. -/

def MarksOutsideQueue (device : Device) (label : Label) : Prop :=
  match label.call with
  | .markSettlement messageId next _ writes =>
      writes.replace = .applied → writes.append = .applied →
        ∀ engine ∈ device.engine,
          (engine.settlement.status messageId).any
              (fun current => current.canTransitionTo next) = true →
            messageId ∉ engine.queue.ids
  | _ => True

instance (device : Device) (label : Label) :
    Decidable (MarksOutsideQueue device label) :=
  match label with
  | ⟨.markSettlement messageId next _ writes, _⟩ =>
      inferInstanceAs (Decidable (writes.replace = .applied →
        writes.append = .applied → ∀ engine ∈ device.engine,
          (engine.settlement.status messageId).any
              (fun current => current.canTransitionTo next) = true →
            messageId ∉ engine.queue.ids))
  | ⟨.openPath _ _, _⟩ => .isTrue trivial
  | ⟨.drop, _⟩ => .isTrue trivial
  | ⟨.seedAccount _ _ _, _⟩ => .isTrue trivial
  | ⟨.queuePayment _ _ _ _, _⟩ => .isTrue trivial
  | ⟨.nextToDispatch _ _, _⟩ => .isTrue trivial

def QueuedInTracker (device : Device) : Prop :=
  ∀ engine, device.engine = some engine → ∀ messageId ∈ engine.queue.ids,
    engine.settlement.status messageId = some .queued

theorem queuedInTracker_of_engine {db : Database} {engine : SyncEngine}
    (queued : ∀ messageId ∈ engine.queue.ids,
      engine.settlement.status messageId = some .queued) :
    QueuedInTracker ⟨db, some engine⟩ := by
  intro other same
  obtain rfl := Option.some_inj.mp same
  exact queued

theorem queuedInTracker_of_effect {out : List Bytes32}
    {device after : Device} {label : Label}
    (dispatching : Dispatching out device)
    (guarded : MarksOutsideQueue device label)
    (queued : QueuedInTracker device)
    (effect : Effect crates device label after) : QueuedInTracker after := by
  cases effect with
  | unchanged silent => exact queued
  | stopped silent => simp [QueuedInTracker]
  | opened onFile rebuilt =>
      refine queuedInTracker_of_engine ?_
      intro messageId member
      obtain ⟨entry, held, rfl⟩ := List.mem_map.mp member
      obtain ⟨record, _, isQueued, rfl⟩ := (rebuilt.entries entry).mp held
      obtain ⟨status, tracked, same⟩ := Option.map_eq_some_iff.mp
        ((rebuilt.status record.envelope.messageId).trans isQueued)
      obtain rfl := SettlementStatus.asStr_injective same
      exact tracked
  | @seededInMemory db engine account baseline reply =>
      exact queuedInTracker_of_engine (queued engine rfl)
  | @seeded db engine survivor account baseline write reply survives =>
      rcases survives with rfl | rfl
      · simp [QueuedInTracker]
      · exact queuedInTracker_of_engine (queued engine rfl)
  | @rolledBack db engine request stamp unixNow write error =>
      exact queuedInTracker_of_engine (queued engine rfl)
  | @paid db engine survivor request stamp unixNow write reply payment
      envelopeBytes taken accepts committed survives =>
      rcases survives with rfl | rfl
      · simp [QueuedInTracker]
      · refine queuedInTracker_of_engine ?_
        intro messageId member
        simp only [SyncEngine.withPayment, SettlementTracker.status_track]
        split
        · rfl
        · rename_i other
          rcases List.mem_cons.mp
              ((ids_withPayment engine payment taken).mem_iff.mp member)
            with same | old
          · exact absurd same other
          · exact queued engine rfl messageId old
  | @dispatched db engine head rest unixNow popped =>
      refine queuedInTracker_of_engine ?_
      intro messageId member
      have ids := ids_of_pop popped
      obtain ⟨absent, _⟩ := List.nodup_cons.mp
        (ids.nodup_iff.mp (dispatching.distinct engine rfl))
      have other : messageId ≠ head.envelope.messageId := by
        rintro rfl
        exact absent member
      simp only [SyncEngine.withoutHead,
        SettlementTracker.status_transitionIgnored, if_neg other]
      exact queued engine rfl messageId
        (ids.mem_iff.mpr (List.mem_cons_of_mem _ member))
  | dispatchCut popped => simp [QueuedInTracker]
  | @marked db after engine survivor messageId current next updatedAt writes
      reply held legal envelopes reservations status survives =>
      rcases survives with rfl | ⟨replaced, ⟨appended, rfl⟩ | ⟨_, rfl⟩⟩
      · simp [QueuedInTracker]
      · refine queuedInTracker_of_engine ?_
        intro other member
        have outside : messageId ∉ engine.queue.ids :=
          guarded replaced appended engine rfl (by simp [held, legal])
        have different : other ≠ messageId := by
          rintro rfl
          exact outside member
        rw [SettlementTracker.status_restore, if_neg different]
        exact queued engine rfl other member
      · exact queuedInTracker_of_engine (queued engine rfl)

/-- If no settlement is marked for an envelope in the queue, every envelope
handed to the mesh was `Queued` until then. -/
theorem dispatched_only_queued {trace : List Label} {device after : Device}
    {label : Label} {envelope : TransactionEnvelope}
    (run : (fileEngine crates file).RunUnder
      (fun _ device label => MarksOutsideQueue device label) trace device)
    (fresh : FreshIds crates trace)
    (stepped : (fileEngine crates file).step device label after)
    (handed : label.dispatched = some envelope) :
    ∃ engine, device.engine = some engine ∧
      engine.settlement.status envelope.messageId = some .queued := by
  have tracked := run_invariant (fun trace device =>
    FreshIds crates trace → QueuedInTracker device) ?_ ?_ run fresh
  · obtain ⟨engine, alive, member⟩ := id_of_dispatched
      (step_effect (run_sound run) stepped)
      (by rw [Label.dispatchedId, handed, Option.map_some])
    exact ⟨engine, alive, tracked engine alive _ member⟩
  · simp [QueuedInTracker]
  · intro _ _ _ _ prior queued guarded effect fresh
    exact queuedInTracker_of_effect (run_dispatching prior fresh.of_snoc)
      guarded (queued fresh.of_snoc) effect

/-- An envelope marked as `Propagating` while in the queue is handed out
afterwards. -/
theorem dispatched_not_queued :
    ∃ (trace : List Label) (device : Device) (label : Label) (after : Device),
      (fileEngine Sample.crates Sample.file).Run trace device ∧
        (fileEngine Sample.crates Sample.file).step device label after ∧
        FreshIds Sample.crates trace ∧ ∃ engine ∈ device.engine,
          ∃ envelope ∈ label.dispatched,
            engine.settlement.status envelope.messageId ≠ some .queued :=
  exists_step Sample.crates Sample.file (fun _ _ _ => True)
    (fun trace device label _ => FreshIds Sample.crates trace ∧
      ∃ engine ∈ device.engine, ∃ envelope ∈ label.dispatched,
        engine.settlement.status envelope.messageId ≠ some .queued)
    [Sample.openEmpty,
      .queuePayment (Sample.request "AQ") (Sample.stamp 1) 1000 .applied,
      .markSettlement (Sample.stamp 1).messageId .propagating 1001
        ⟨.served, .applied, .applied⟩]
    (.nextToDispatch 1002 .applied) (by decide +kernel)

/-- A payment marked only after it was handed out. -/
theorem dispatched_only_queued_two :
    ∃ (device : Device) (envelope : TransactionEnvelope) (engine : SyncEngine),
      device.engine = some engine ∧
      envelope.messageId = (Sample.stamp 2).messageId ∧
      engine.settlement.status envelope.messageId = some .queued := by
  obtain ⟨trace, device, label, after, run, stepped, fresh, handed⟩ :=
    exists_step Sample.crates Sample.file
      (fun _ device label => MarksOutsideQueue device label)
      (fun trace _ label _ => FreshIds Sample.crates trace ∧
        label.dispatched = some (Sample.envelope "Ag" 2))
      [Sample.openEmpty,
        .queuePayment (Sample.request "AQ") (Sample.stamp 1) 1000 .applied,
        .queuePayment (Sample.request "Ag") (Sample.stamp 2) 1001 .applied,
        .nextToDispatch 1002 .applied,
        .markSettlement (Sample.stamp 1).messageId .settled 1003
          ⟨.served, .applied, .applied⟩]
      (.nextToDispatch 1004 .applied) (by decide +kernel)
  obtain ⟨engine, alive, queued⟩ :=
    dispatched_only_queued run fresh stepped handed
  exact ⟨device, _, engine, alive, rfl, queued⟩

end StellarConduit
