import SyncEngine.Engine.Agreement
import SyncEngine.Storage.History

namespace StellarConduit

open Data

/-! The history of an envelope against the status in its row. -/

variable {crates : Crates} {file : DatabaseFile}

/-- The call stores no payment under an id that has a history, puts a marker
only where it changes no status, and leaves no status that it marks without a
complete row of history. -/
def KeepsTrail (crates : Crates) (device : Device) (label : Label) : Prop :=
  match label.call with
  | .queuePayment _ _ _ _ =>
      ∀ payment ∈ label.call.stores crates device,
        SyncEngineDb.historyFor payment.envelope.messageId device.db = []
  | .nextToDispatch _ write =>
      write.takesEffect = true → ∀ engine ∈ device.engine,
        ∀ head ∈ engine.queue.peek,
          device.db.statusText head.messageId.toVec =
            some SettlementStatus.propagating.asStr
  | .markSettlement messageId next _ writes =>
      writes.replace.takesEffect = true → ∀ engine ∈ device.engine,
        (engine.settlement.status messageId).any
            (fun current => current.canTransitionTo next) = true →
          writes.replace = .applied ∧ writes.append.takesEffect = true ∧
            writes.select = .served
  | _ => True

instance (crates : Crates) (device : Device) (label : Label) :
    Decidable (KeepsTrail crates device label) :=
  match label with
  | ⟨.queuePayment request stamp unixNow write, _⟩ =>
      inferInstanceAs (Decidable (∀ payment ∈ (Call.queuePayment request stamp
        unixNow write).stores crates device,
          SyncEngineDb.historyFor payment.envelope.messageId device.db = []))
  | ⟨.nextToDispatch _ write, _⟩ =>
      inferInstanceAs (Decidable (write.takesEffect = true →
        ∀ engine ∈ device.engine, ∀ head ∈ engine.queue.peek,
          device.db.statusText head.messageId.toVec =
            some SettlementStatus.propagating.asStr))
  | ⟨.markSettlement messageId next _ writes, _⟩ =>
      inferInstanceAs (Decidable (writes.replace.takesEffect = true →
        ∀ engine ∈ device.engine, (engine.settlement.status messageId).any
            (fun current => current.canTransitionTo next) = true →
          writes.replace = .applied ∧ writes.append.takesEffect = true ∧
            writes.select = .served))
  | ⟨.openPath _ _, _⟩ => .isTrue trivial
  | ⟨.drop, _⟩ => .isTrue trivial
  | ⟨.seedAccount _ _ _, _⟩ => .isTrue trivial

/-- A call that keeps the trail writes no status that the tracker rejects. -/
theorem KeepsTrail.follows {device : Device} {label : Label}
    (agrees : device.Agrees) (keeps : KeepsTrail crates device label) :
    WritesFollowTracker device label := by
  obtain ⟨db, alive⟩ := device
  obtain ⟨call, reply⟩ := label
  cases call with
  | nextToDispatch unixNow write =>
      rintro engine rfl head peeked
      have marked : write.takesEffect = true →
          db.statusText head.messageId.toVec =
            some SettlementStatus.propagating.asStr :=
        fun effective => keeps effective engine rfl head peeked
      refine ⟨fun effective settled => ?_, fun applied disputed => ?_⟩
      · have text := (agrees.text settled).symm.trans (marked effective)
        exact absurd text (by decide)
      · have text := (agrees.text disputed).symm.trans
          (marked (congrArg Write.takesEffect applied))
        exact absurd text (by decide)
  | markSettlement messageId next updatedAt writes =>
      rintro replaced refused engine rfl
      rw [Bool.eq_false_iff]
      intro accepted
      have appended := (keeps (congrArg Write.takesEffect replaced) engine rfl
        accepted).2.1
      rw [refused] at appended
      simp [Write.takesEffect] at appended
  | _ => trivial

theorem Device.db_of_settle {outcome : Outcome Database (SyncEngine × α)}
    {answer : α → Reply} {reply : Reply} {after : Device}
    (settled : Device.settle outcome answer = (reply, after)) :
    after.db = outcome.durable := by
  cases outcome with
  | returned db value =>
      obtain ⟨_, rfl⟩ := Prod.mk.inj settled
      rfl
  | crashed db =>
      obtain ⟨_, rfl⟩ := Prod.mk.inj settled
      rfl

section

variable {db : Database} {engine : SyncEngine} {reply : Reply}

theorem queuePayment_history (sound : engine.Sound crates db)
    (request : PaymentRequest) (stamp : EnvelopeStamp) (unixNow : UInt64)
    (write : Write) :
    HistoryEffect db
      (engine.queuePayment crates request stamp unixNow write db).durable
      (KeepsTrail crates ⟨db, some engine⟩
        ⟨.queuePayment request stamp unixNow write, reply⟩) := by
  rcases SyncEngine.queuePayment_cases crates sound.unguarded request stamp
      unixNow write db with
    ⟨refused, error, outcome⟩ |
      ⟨payment, envelopeBytes, taken, accepts, outcome⟩
  · rw [outcome]
    apply HistoryEffect.kept (fun _ => rfl) rfl
    intro payment stores
    have acceptable := (Option.mem_filter_iff.mp stores).2
    exact absurd (of_decide_eq_true acceptable).2 (refused payment)
  · have left : (engine.queuePayment crates request stamp unixNow write
        db).durable = if write.takesEffect = true then
          SyncEngine.enqueued db payment envelopeBytes else db := by
      rw [outcome]
      cases write <;> rfl
    rw [left]
    split
    · rename_i effective
      apply HistoryEffect.queued Database.statusText_enqueued rfl
      simp [KeepsTrail, accepts.stores effective]
    · rename_i ineffective
      apply HistoryEffect.kept (fun _ => rfl) rfl
      simp [KeepsTrail, Call.stores, ineffective]

theorem nextToDispatch_history (sound : Device.Sound crates ⟨db, some engine⟩)
    (unixNow : UInt64) (write : Write) :
    HistoryEffect db (engine.nextToDispatch unixNow write db).durable
      (KeepsTrail crates ⟨db, some engine⟩
        ⟨.nextToDispatch unixNow write, reply⟩) := by
  have engineSound := sound.engine engine rfl
  rcases SyncEngine.nextToDispatch_cases engineSound.onFile unixNow write db
    with ⟨empty, outcome⟩ | ⟨head, rest, popped, outcome⟩
  · rw [outcome]
    apply HistoryEffect.kept (fun _ => rfl) rfl
    intro _ other alive envelope peeked
    obtain rfl := Option.some_inj.mp alive
    obtain ⟨⟨first, others⟩, popped, _⟩ := Option.map_eq_some_iff.mp
      (engine.queue.peek_eq_pop.symm.trans peeked)
    have held : first ∈ engine.queue.entries := BinaryHeap.mem_of_pop popped
    simp [empty] at held
  · have left : (engine.nextToDispatch unixNow write db).durable =
        if write.takesEffect = true then db.replaceStatus
          head.envelope.messageId.toVec .propagating unixNow else db := by
      rw [outcome]
      cases write <;> rfl
    rw [left]
    split
    · rename_i effective
      obtain ⟨text, held⟩ := Option.isSome_iff_exists.mp
        (engineSound.stored head (BinaryHeap.mem_of_pop popped))
      obtain ⟨current, rfl⟩ := sound.intact.statuses _ _ held
      have text : db.statusText head.envelope.messageId.toVec =
        some current.asStr := held
      have peeked : engine.queue.peek = some head.envelope :=
        OutboundTxQueue.peek_of_pop popped
      apply HistoryEffect.overwritten text
        (fun key => db.statusText_replaceStatus _ key _ _) rfl
      simp [KeepsTrail, effective, peeked, text]
    · rename_i ineffective
      apply HistoryEffect.kept (fun _ => rfl) rfl
      simp [KeepsTrail, ineffective]

theorem markSettlement_history (agrees : Device.Agrees ⟨db, some engine⟩)
    (messageId : Bytes32) (next : SettlementStatus) (updatedAt : UInt64)
    (writes : StatusWrites) :
    HistoryEffect db
      (engine.markSettlement messageId next updatedAt writes db).durable
      (KeepsTrail crates ⟨db, some engine⟩
        ⟨.markSettlement messageId next updatedAt writes, reply⟩) := by
  rcases SyncEngine.markSettlement_cases engine messageId next updatedAt
      writes db with ⟨illegal, error, outcome⟩ | ⟨current, held, legal, outcome⟩
  · rw [outcome]
    apply HistoryEffect.kept (fun _ => rfl) rfl
    intro _ other alive accepted
    obtain rfl := Option.some_inj.mp alive
    obtain ⟨current, held, legal⟩ := (Option.any_eq_true _ _).mp accepted
    simp [illegal current held] at legal
  · have text := agrees.text held
    have status := fun key => db.statusText_replaceStatus messageId.toVec key
      next updatedAt
    have differ := (SettlementStatus.ne_of_canTransitionTo legal).symm
    have keeps : KeepsTrail crates ⟨db, some engine⟩
        ⟨.markSettlement messageId next updatedAt writes, reply⟩ ↔
          (writes.replace.takesEffect = true → writes.replace = .applied ∧
            writes.append.takesEffect = true ∧ writes.select = .served) := by
      simp [KeepsTrail, held, legal]
    obtain ⟨select, replace, append⟩ := writes
    rw [outcome]
    cases replace with
    | refused =>
        exact .kept (fun _ => rfl) rfl
          (keeps.mpr (by simp [Write.takesEffect]))
    | lostBefore =>
        exact .kept (fun _ => rfl) rfl
          (keeps.mpr (by simp [Write.takesEffect]))
    | lostAfter =>
        exact .overwritten text status rfl
          (by simp [keeps, Write.takesEffect, differ])
    | applied =>
        cases append with
        | refused =>
            exact .overwritten text status rfl
              (by simp [keeps, Write.takesEffect, differ])
        | lostBefore =>
            exact .overwritten text status rfl
              (by simp [keeps, Write.takesEffect, differ])
        | applied =>
            exact .recorded text legal status rfl
              (by simp [keeps, Write.takesEffect])
        | lostAfter =>
            exact .recorded text legal status rfl
              (by simp [keeps, Write.takesEffect])

end

theorem step_history {device after : Device} {label : Label}
    (sound : device.Sound crates) (agrees : device.Agrees)
    (stepped : (fileEngine crates file).step device label after) :
    HistoryEffect device.db after.db (KeepsTrail crates device label) := by
  obtain ⟨db, alive⟩ := device
  obtain ⟨call, reply⟩ := label
  obtain ⟨_, performed⟩ := stepped
  cases alive with
  | none =>
      cases call with
      | openPath scans read =>
          simp only [Device.perform] at performed
          split at performed
          · obtain ⟨_, rfl⟩ := Prod.mk.inj (Option.some_inj.mp performed)
            exact .kept (fun _ => rfl) rfl trivial
          · obtain ⟨_, rfl⟩ := Prod.mk.inj (Option.some_inj.mp performed)
            exact .kept (fun _ => rfl) rfl trivial
      | _ => simp [Device.perform] at performed
  | some engine =>
      cases call with
      | openPath scans read => simp [Device.perform] at performed
      | drop =>
          obtain ⟨_, rfl⟩ := Prod.mk.inj (Option.some_inj.mp performed)
          exact .kept (fun _ => rfl) rfl trivial
      | seedAccount account baseline write =>
          rw [Device.db_of_settle (Option.some_inj.mp performed),
            SyncEngine.seedAccount_cases]
          cases write <;> exact .kept (fun _ => rfl) rfl trivial
      | queuePayment request stamp unixNow write =>
          rw [Device.db_of_settle (Option.some_inj.mp performed)]
          exact queuePayment_history (sound.engine engine rfl) request stamp
            unixNow write
      | nextToDispatch unixNow write =>
          rw [Device.db_of_settle (Option.some_inj.mp performed)]
          exact nextToDispatch_history sound unixNow write
      | markSettlement messageId next updatedAt writes =>
          rw [Device.db_of_settle (Option.some_inj.mp performed)]
          exact markSettlement_history agrees messageId next updatedAt writes

/-- What holds of a device as long as every call keeps the trail. -/
structure Device.Audited (device : Device) : Prop where
  agrees : device.Agrees
  ordered : device.db.HistoryOrdered
  accounted : device.db.Accounted

theorem Device.Sound.auditTrail_iff {device : Device}
    (sound : device.Sound crates) :
    device.db.AuditTrail ↔ device.db.Accounted := by
  simp only [Database.AuditTrail, sound.intact.tracked, Database.Accounted]

theorem run_audited {trace : List Label} {device : Device}
    (run : (fileEngine crates file).RunUnder
      (fun _ device label => KeepsTrail crates device label) trace device) :
    device.Audited := by
  refine run.invariant (fun _ device => device.Audited) ?_ ?_
  · rintro _ rfl
    refine ⟨.of_db, List.Pairwise.nil, ?_⟩
    simp [Database.Accounted, Database.statusText, Database.empty]
  · intro trace device label after prior audited keeps stepped
    have sound := run_sound prior
    have effect := step_history sound audited.agrees stepped
    exact ⟨agrees_of_effect sound audited.agrees (keeps.follows audited.agrees)
        (step_effect sound stepped),
      effect.ordered audited.ordered,
      (effect.accounted_iff audited.ordered audited.accounted).mpr keeps⟩

/-- As long as every call keeps the trail, the history of every envelope leads
from `Queued` to the status in its row, and after a further call it does so
exactly if that call keeps the trail too. -/
theorem history_complete_iff {trace : List Label} {device : Device}
    (run : (fileEngine crates file).RunUnder
      (fun _ device label => KeepsTrail crates device label) trace device) :
    device.db.AuditTrail ∧ ∀ label after,
      (fileEngine crates file).step device label after →
      (after.db.AuditTrail ↔ KeepsTrail crates device label) := by
  have sound := run_sound run
  have audited := run_audited run
  refine ⟨sound.auditTrail_iff.mpr audited.accounted, ?_⟩
  intro label after stepped
  rw [(effect_sound sound (step_effect sound stepped)).auditTrail_iff]
  exact (step_history sound audited.agrees stepped).accounted_iff
    audited.ordered audited.accounted

instance (db : Database) (messageId : Bytes32) :
    Decidable (db.Trail messageId) :=
  decidable_of_iff
    ((replayHistory .queued (SyncEngineDb.historyFor messageId db)).any
      (fun final => db.statusText messageId.toVec = some final.asStr) = true) <|
    by simp [Database.Trail, Option.any_eq_true]

/-- Dispatch leaves no row of history: the row of the envelope says
`propagating`, and its history is empty. -/
theorem history_incomplete :
    ∃ (trace : List Label) (device : Device),
      (fileEngine Sample.crates Sample.file).Run trace device ∧
        ¬ device.db.AuditTrail := by
  obtain ⟨trace, device, run, queued, broken⟩ := exists_run Sample.crates
    Sample.file (fun _ _ _ => True)
    (fun _ device =>
      (device.db.queuedEnvelopes.lookup
        (Sample.stamp 1).messageId.toVec).isSome = true ∧
      ¬ device.db.Trail (Sample.stamp 1).messageId)
    [Sample.openEmpty,
      .queuePayment (Sample.request "AQ") (Sample.stamp 1) 1000 .applied,
      .nextToDispatch 1001 .applied]
    (by decide +kernel)
  exact ⟨trace, device, run, fun trails => broken (trails _ queued)⟩

/-- A payment is marked as propagating before it is dispatched, and settled
afterwards by a call that is cut off once all is written. -/
theorem history_complete_iff_sample :
    ∃ (device : Device) (label : Label) (after : Device),
      (fileEngine Sample.crates Sample.file).step device label after ∧
      after.db.settlementHistory.length = 2 ∧
      device.db.AuditTrail ∧ after.db.AuditTrail := by
  obtain ⟨trace, device, label, after, run, stepped, two, keeps⟩ :=
    exists_step Sample.crates Sample.file
      (fun _ device label => KeepsTrail Sample.crates device label)
      (fun _ device label after =>
        after.db.settlementHistory.length = 2 ∧
          KeepsTrail Sample.crates device label)
      [Sample.openEmpty,
        .queuePayment (Sample.request "AQ") (Sample.stamp 1) 1000 .applied,
        .queuePayment (Sample.request "Ag") (Sample.stamp 2) 1001 .applied,
        .markSettlement (Sample.stamp 1).messageId .propagating 1002
          ⟨.served, .applied, .applied⟩,
        .nextToDispatch 1003 .applied]
      (.markSettlement (Sample.stamp 1).messageId .settled 1004
        ⟨.served, .applied, .lostAfter⟩) (by decide +kernel)
  obtain ⟨trails, further⟩ := history_complete_iff run
  exact ⟨device, label, after, stepped, two, trails,
    (further label after stepped).mpr keeps⟩

end StellarConduit
