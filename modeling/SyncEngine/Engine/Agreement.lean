import SyncEngine.Engine.Dispatch

namespace StellarConduit

open Data

/-! The tracker in memory against the table of statuses on disk. -/

variable {crates : Crates} {file : DatabaseFile}

/-- The engine, if there is one, tracks what the table says. -/
def Device.Agrees (device : Device) : Prop :=
  ∀ engine, device.engine = some engine → ∀ messageId,
    (engine.settlement.status messageId).map SettlementStatus.asStr =
      device.db.statusText messageId.toVec

/-- The call writes no status to disk that the tracker has to reject or does
not get to see. -/
def WritesFollowTracker (device : Device) (label : Label) : Prop :=
  match label.call with
  | .nextToDispatch _ write =>
      ∀ engine ∈ device.engine, ∀ head ∈ engine.queue.peek,
        (write.takesEffect = true →
          engine.settlement.status head.messageId ≠ some .settled) ∧
        (write = .applied →
          engine.settlement.status head.messageId ≠ some .disputed)
  | .markSettlement messageId next _ writes =>
      writes.replace = .applied → writes.append = .refused →
        ∀ engine ∈ device.engine,
          (engine.settlement.status messageId).any
            (fun current => current.canTransitionTo next) = false
  | _ => True

instance (device : Device) (label : Label) :
    Decidable (WritesFollowTracker device label) :=
  match label with
  | ⟨.nextToDispatch _ write, _⟩ =>
      inferInstanceAs (Decidable (∀ engine ∈ device.engine,
        ∀ head ∈ engine.queue.peek,
          (write.takesEffect = true →
            engine.settlement.status head.messageId ≠ some .settled) ∧
          (write = .applied →
            engine.settlement.status head.messageId ≠ some .disputed)))
  | ⟨.markSettlement messageId next _ writes, _⟩ =>
      inferInstanceAs (Decidable (writes.replace = .applied →
        writes.append = .refused → ∀ engine ∈ device.engine,
          (engine.settlement.status messageId).any
            (fun current => current.canTransitionTo next) = false))
  | ⟨.openPath _ _, _⟩ => .isTrue trivial
  | ⟨.drop, _⟩ => .isTrue trivial
  | ⟨.seedAccount _ _ _, _⟩ => .isTrue trivial
  | ⟨.queuePayment _ _ _ _, _⟩ => .isTrue trivial

namespace Device.Agrees

variable {db after : Database} {engine : SyncEngine}

theorem of_db : Agrees ⟨db, none⟩ := by
  simp [Agrees]

theorem of_engine (agrees : ∀ messageId,
    (engine.settlement.status messageId).map SettlementStatus.asStr =
      db.statusText messageId.toVec) : Agrees ⟨db, some engine⟩ := by
  intro other same
  obtain rfl := Option.some_inj.mp same
  exact agrees

theorem of_status {later : SyncEngine} {written : Bytes32}
    {next : SettlementStatus} (agrees : Agrees ⟨db, some engine⟩)
    (memory : ∀ messageId, later.settlement.status messageId =
      if messageId = written then some next
      else engine.settlement.status messageId)
    (durable : ∀ key, after.statusText key =
      if key = written.toVec then some next.asStr else db.statusText key) :
    Agrees ⟨after, some later⟩ := by
  refine of_engine fun messageId => ?_
  rw [memory, durable]
  by_cases same : messageId = written
  · rw [if_pos same, if_pos (congrArg Bytes32.toVec same)]
    rfl
  · have other : messageId.toVec ≠ written.toVec := Bytes32.toVec_ne same
    rw [if_neg same, if_neg other]
    exact agrees engine rfl messageId

theorem text (agrees : Agrees ⟨db, some engine⟩) {messageId : Bytes32}
    {status : SettlementStatus}
    (held : engine.settlement.status messageId = some status) :
    db.statusText messageId.toVec = some status.asStr := by
  rw [← agrees engine rfl messageId, held]
  rfl

theorem text_ne (agrees : Agrees ⟨db, some engine⟩) {messageId : Bytes32}
    {status : SettlementStatus}
    (other : engine.settlement.status messageId ≠ some status) :
    db.statusText messageId.toVec ≠ some status.asStr := by
  rw [← agrees engine rfl messageId]
  intro same
  obtain ⟨held, tracked, equal⟩ := Option.map_eq_some_iff.mp same
  obtain rfl := SettlementStatus.asStr_injective equal
  exact other tracked

end Device.Agrees

theorem status_withoutHead {db : Database} {engine : SyncEngine}
    {head : QueuedTx} {rest : BinaryHeap QueuedTx}
    (sound : engine.Sound crates db)
    (popped : engine.queue.heap.pop = some (head, rest))
    (unsettled : engine.settlement.status head.envelope.messageId ≠
      some .settled)
    (undisputed : engine.settlement.status head.envelope.messageId ≠
      some .disputed) (messageId : Bytes32) :
    (engine.withoutHead head rest).settlement.status messageId =
      if messageId = head.envelope.messageId then some .propagating
      else engine.settlement.status messageId := by
  have stored := sound.stored head (BinaryHeap.mem_of_pop popped)
  rw [← sound.tracked, Option.isSome_iff_exists] at stored
  obtain ⟨current, held⟩ := stored
  simp only [SyncEngine.withoutHead,
    SettlementTracker.status_transitionIgnored]
  split
  · rw [held] at unsettled undisputed ⊢
    cases current with
    | queued => rfl
    | propagating => rfl
    | failed => rfl
    | settled => exact absurd rfl unsettled
    | disputed => exact absurd rfl undisputed
  · rfl

theorem agrees_of_effect {device after : Device} {label : Label}
    (sound : device.Sound crates) (agrees : device.Agrees)
    (follows : WritesFollowTracker device label)
    (effect : Effect crates device label after) : after.Agrees := by
  cases effect with
  | unchanged silent => exact agrees
  | stopped silent => exact .of_db
  | opened onFile rebuilt => exact .of_engine rebuilt.status
  | @seededInMemory db engine account baseline reply =>
      exact .of_engine (agrees engine rfl)
  | @seeded db engine survivor account baseline write reply survives =>
      rcases survives with rfl | rfl
      · exact .of_db
      · exact .of_engine (agrees engine rfl)
  | @rolledBack db engine request stamp unixNow write error =>
      exact .of_engine (agrees engine rfl)
  | paid accepts committed survives =>
      rcases survives with rfl | rfl
      · exact .of_db
      · exact agrees.of_status
          (fun messageId => SettlementTracker.status_track _ _ _)
          Database.statusText_enqueued
  | @dispatched db engine head rest unixNow popped =>
      obtain ⟨unsettled, undisputed⟩ :=
        follows engine rfl _ (OutboundTxQueue.peek_of_pop popped)
      exact agrees.of_status
        (status_withoutHead (sound.engine engine rfl) popped
          (unsettled rfl) (undisputed rfl))
        fun key => db.statusText_replaceStatus _ key _ _
  | dispatchCut popped => exact .of_db
  | @marked db after engine survivor messageId current next updatedAt writes
      reply held legal envelopes reservations status survives =>
      rcases survives with rfl | ⟨replaced, ⟨_, rfl⟩ | ⟨appended, rfl⟩⟩
      · exact .of_db
      · exact agrees.of_status
          (fun other => SettlementTracker.status_restore _ _ _ _) status
      · have illegal := follows replaced appended engine rfl
        simp [held, legal] at illegal

theorem SettledKept.of_status {db after : Database} {written : Bytes}
    {status : SettlementStatus}
    (unsettled : db.statusText written ≠
      some SettlementStatus.settled.asStr)
    (durable : ∀ key, after.statusText key =
      if key = written then some status.asStr else db.statusText key) :
    SettledKept db after := by
  intro key settled
  rw [durable]
  split
  · rename_i same
    exact absurd (same ▸ settled) unsettled
  · exact settled

theorem settledKept_of_effect {trace : List Label} {device after : Device}
    {label : Label} (fresh : FreshIds crates (trace ++ [label]))
    (sound : device.Sound crates) (recorded : Recorded crates trace device.db)
    (agrees : device.Agrees) (follows : WritesFollowTracker device label)
    (effect : Effect crates device label after) :
    SettledKept device.db after.db := by
  cases effect with
  | @paid db engine survivor request stamp unixNow write reply payment
      envelopeBytes taken accepts committed survives =>
      refine .of_status ?_ Database.statusText_enqueued
      intro settled
      obtain ⟨earlier, member, same⟩ := recorded.payment_of_status
        sound.intact (Option.isSome_of_eq_some settled)
      exact fresh.ne_of_committed committed member same
  | @dispatched db engine head rest unixNow popped =>
      have follows :=
        follows engine rfl _ (OutboundTxQueue.peek_of_pop popped)
      exact .of_status (agrees.text_ne (follows.1 rfl))
        fun key => db.statusText_replaceStatus _ key _ _
  | @dispatchCut db engine head rest unixNow popped =>
      have follows :=
        follows engine rfl _ (OutboundTxQueue.peek_of_pop popped)
      exact .of_status (agrees.text_ne (follows.1 rfl))
        fun key => db.statusText_replaceStatus _ key _ _
  | marked held legal envelopes reservations status survives =>
      refine .of_status ?_ status
      rw [agrees.text held]
      simpa using SettlementStatus.ne_settled_of_canTransitionTo legal
  | _ => exact fun _ settled => settled

/-! A step that breaks the condition breaks the agreement, or replaces a row
that says `settled`. -/

section

variable {db : Database} {engine : SyncEngine} {reply : Reply}
  {after : Device}

theorem nextToDispatch_follows {unixNow : UInt64} {write : Write}
    (onFile : engine.dispatchConn = .file)
    (agrees : Device.Agrees ⟨db, some engine⟩)
    (settled : Device.settle (engine.nextToDispatch unixNow write db)
      .dispatched = (reply, after))
    (agreesAfter : after.Agrees) (kept : SettledKept db after.db)
    {envelope : TransactionEnvelope} (peeked : envelope ∈ engine.queue.peek) :
    (write.takesEffect = true →
      engine.settlement.status envelope.messageId ≠ some .settled) ∧
    (write = .applied →
      engine.settlement.status envelope.messageId ≠ some .disputed) := by
  obtain ⟨⟨head, rest⟩, popped, rfl⟩ := Option.map_eq_some_iff.mp
    (engine.queue.peek_eq_pop.symm.trans peeked)
  have marked : (db.replaceStatus head.envelope.messageId.toVec .propagating
      unixNow).statusText head.envelope.messageId.toVec =
        some SettlementStatus.propagating.asStr := by
    rw [Database.statusText_replaceStatus, if_pos rfl]
  rcases SyncEngine.nextToDispatch_cases onFile unixNow write db with
    ⟨empty, _⟩ | ⟨first, others, same, outcome⟩
  · have held : head ∈ engine.queue.entries := BinaryHeap.mem_of_pop popped
    simp [empty] at held
  · obtain ⟨rfl, rfl⟩ := Prod.mk.inj
      (Option.some_inj.mp (popped.symm.trans same))
    rw [outcome] at settled
    refine ⟨fun effective isSettled => ?_, fun applied isDisputed => ?_⟩
    · have overwritten := kept _ (agrees.text isSettled)
      cases write with
      | applied =>
          obtain ⟨_, rfl⟩ := Prod.mk.inj settled
          exact absurd (marked.symm.trans overwritten) (by decide)
      | lostAfter =>
          obtain ⟨_, rfl⟩ := Prod.mk.inj settled
          exact absurd (marked.symm.trans overwritten) (by decide)
      | refused => simp [Write.takesEffect] at effective
      | lostBefore => simp [Write.takesEffect] at effective
    · subst applied
      obtain ⟨_, rfl⟩ := Prod.mk.inj settled
      have same := agreesAfter _ rfl head.envelope.messageId
      rw [marked] at same
      simp [SyncEngine.withoutHead,
        SettlementTracker.status_transitionIgnored, isDisputed,
        SettlementStatus.canTransitionTo] at same

theorem markSettlement_follows {messageId : Bytes32} {next : SettlementStatus}
    {updatedAt : UInt64} {writes : StatusWrites}
    (settled : Device.settle
      (engine.markSettlement messageId next updatedAt writes db) .marked =
        (reply, after))
    (agreesAfter : after.Agrees) (replaced : writes.replace = .applied)
    (appended : writes.append = .refused) :
    (engine.settlement.status messageId).any
      (fun current => current.canTransitionTo next) = false := by
  rcases SyncEngine.markSettlement_cases engine messageId next updatedAt
      writes db with ⟨illegal, _⟩ | ⟨current, held, legal, outcome⟩
  · simpa [Option.any_eq_false] using illegal
  · simp only [outcome, replaced, appended] at settled
    obtain ⟨_, rfl⟩ := Prod.mk.inj settled
    have same := agreesAfter engine rfl messageId
    rw [held, Database.statusText_replaceStatus, if_pos rfl] at same
    have equal := SettlementStatus.asStr_injective (Option.some_inj.mp same)
    exact absurd equal.symm (SettlementStatus.ne_of_canTransitionTo legal)

end

theorem follows_of_kept {device after : Device} {label : Label}
    (sound : device.Sound crates) (agrees : device.Agrees)
    (stepped : (fileEngine crates file).step device label after)
    (agreesAfter : after.Agrees) (kept : SettledKept device.db after.db) :
    WritesFollowTracker device label := by
  obtain ⟨db, alive⟩ := device
  obtain ⟨call, reply⟩ := label
  obtain ⟨_, performed⟩ := stepped
  cases call with
  | nextToDispatch unixNow write =>
      rintro engine rfl envelope peeked
      exact nextToDispatch_follows (sound.engine engine rfl).onFile agrees
        (Option.some_inj.mp performed) agreesAfter kept peeked
  | markSettlement messageId next updatedAt writes =>
      rintro replaced appended engine rfl
      exact markSettlement_follows (Option.some_inj.mp performed) agreesAfter
        replaced appended
  | _ => trivial

/-- As long as the condition is met the tracker agrees with the table, and a
further step keeps the agreement and the rows that say `settled` exactly if it
meets the condition too. -/
theorem memory_agrees_with_database {trace : List Label} {device : Device}
    (run : (fileEngine crates file).RunUnder
      (fun _ device label => WritesFollowTracker device label) trace device) :
    device.Agrees ∧ ∀ label after,
      (fileEngine crates file).step device label after →
      FreshIds crates (trace ++ [label]) →
      (after.Agrees ∧ SettledKept device.db after.db ↔
        WritesFollowTracker device label) := by
  have agrees := run_invariant (fun _ device => device.Agrees) .of_db
    (fun _ _ _ _ prior agrees follows effect =>
      agrees_of_effect (run_sound prior) agrees follows effect) run
  refine ⟨agrees, fun label after stepped fresh => ⟨?_, fun follows => ?_⟩⟩
  · rintro ⟨agreesAfter, kept⟩
    exact follows_of_kept (run_sound run) agrees stepped agreesAfter kept
  · have effect := step_effect (run_sound run) stepped
    exact ⟨agrees_of_effect (run_sound run) agrees follows effect,
      settledKept_of_effect fresh (run_sound run) (run_recorded run) agrees
        follows effect⟩

/-- A settled envelope that was still in the queue is dispatched: the table
says `propagating` from then on, the tracker `Settled`. -/
theorem memory_disagrees_with_database :
    ∃ (trace : List Label) (device : Device) (label : Label) (after : Device),
      (fileEngine Sample.crates Sample.file).Run trace device ∧
        (fileEngine Sample.crates Sample.file).step device label after ∧
        FreshIds Sample.crates (trace ++ [label]) ∧
        ¬ after.Agrees ∧ ¬ SettledKept device.db after.db := by
  obtain ⟨trace, device, label, after, run, stepped, fresh,
      ⟨engine, alive, tracked⟩, before, text⟩ :=
    exists_step Sample.crates Sample.file (fun _ _ _ => True)
      (fun trace device label after =>
        FreshIds Sample.crates (trace ++ [label]) ∧
        (∃ engine ∈ after.engine,
          engine.settlement.status (Sample.stamp 1).messageId =
            some .settled) ∧
        device.db.statusText (Sample.stamp 1).messageId.toVec =
          some SettlementStatus.settled.asStr ∧
        after.db.statusText (Sample.stamp 1).messageId.toVec =
          some SettlementStatus.propagating.asStr)
      [Sample.openEmpty,
        .queuePayment (Sample.request "AQ") (Sample.stamp 1) 1000 .applied,
        .markSettlement (Sample.stamp 1).messageId .propagating 1001
          ⟨.served, .applied, .applied⟩,
        .markSettlement (Sample.stamp 1).messageId .settled 1002
          ⟨.served, .applied, .applied⟩]
      (.nextToDispatch 1003 .applied) (by decide +kernel)
  refine ⟨trace, device, label, after, run, stepped, fresh, ?_, ?_⟩
  · intro agrees
    have same := agrees engine alive (Sample.stamp 1).messageId
    rw [tracked, text] at same
    exact absurd same (by decide)
  · intro kept
    exact absurd (text.symm.trans (kept _ before)) (by decide)

/-- A payment marked as settled after its dispatch, with one of the writes
refused, and another one dispatched. -/
theorem memory_agrees_with_database_two :
    ∃ (device after : Device), device.engine.isSome = true ∧
      device.Agrees ∧ after.Agrees ∧ SettledKept device.db after.db := by
  obtain ⟨trace, device, label, after, run, stepped, fresh, alive, follows⟩ :=
    exists_step Sample.crates Sample.file
      (fun _ device label => WritesFollowTracker device label)
      (fun trace device label _ =>
        FreshIds Sample.crates (trace ++ [label]) ∧
        device.engine.isSome = true ∧ WritesFollowTracker device label)
      [Sample.openEmpty,
        .queuePayment (Sample.request "AQ") (Sample.stamp 1) 1000 .applied,
        .queuePayment (Sample.request "Ag") (Sample.stamp 2) 1001 .applied,
        .nextToDispatch 1002 .applied,
        .markSettlement (Sample.stamp 1).messageId .settled 1003
          ⟨.served, .refused, .applied⟩,
        .markSettlement (Sample.stamp 1).messageId .settled 1004
          ⟨.served, .applied, .applied⟩]
      (.nextToDispatch 1005 .applied) (by decide +kernel)
  obtain ⟨agrees, keeps⟩ := memory_agrees_with_database run
  exact ⟨device, after, alive, agrees,
    (keeps label after stepped fresh).mpr follows⟩

end StellarConduit
