import SyncEngine.Engine.Replay
import SyncEngine.Engine.Sound

namespace StellarConduit

open Data

/-! In which order the payments of one account and one tier are handed to the
mesh. -/

variable {crates : Crates} {file : DatabaseFile}

namespace QueuedTx

/-- The account whose sequence number the transaction of an entry consumes,
with that number. -/
def consumes (crates : Crates) (entry : QueuedTx) : Option (String × Int64) :=
  (crates.extractSourceAccountAndSequence entry.envelope.txXdr).toOption

/-- Both entries are in one tier and consume numbers of one account, and the
number of `first` is the lower one. -/
def Precedes (crates : Crates) (first second : QueuedTx) : Prop :=
  first.priority = second.priority ∧
    ∃ lower ∈ first.consumes crates, ∃ higher ∈ second.consumes crates,
      lower.1 = higher.1 ∧ lower.2 < higher.2

instance (crates : Crates) (first second : QueuedTx) :
    Decidable (first.Precedes crates second) :=
  inferInstanceAs (Decidable (_ ∧ _))

theorem Precedes.irrefl (entry : QueuedTx) :
    ¬ entry.Precedes crates entry := by
  rintro ⟨_, lower, consumed, higher, alsoConsumed, _, less⟩
  obtain rfl := Option.mem_unique consumed alsoConsumed
  exact Int64.lt_irrefl less

end QueuedTx

/-- A payment that the call stores reads a clock that orders it, among the
payments of its account and tier in the queue, as its number does. -/
def ClockFollowsSequence (crates : Crates) (device : Device) (label : Label) :
    Prop :=
  ∀ engine ∈ device.engine, ∀ payment ∈ label.call.stores crates device,
    ∀ entry ∈ engine.queue.entries,
      (entry.Precedes crates payment.queuedTx →
        entry.enqueuedAt < payment.enqueuedAt) ∧
      (payment.queuedTx.Precedes crates entry →
        payment.enqueuedAt < entry.enqueuedAt)

instance (crates : Crates) (device : Device) (label : Label) :
    Decidable (ClockFollowsSequence crates device label) :=
  inferInstanceAs (Decidable (∀ engine ∈ device.engine, _))

/-! The queue of the engine, or the one it will have when the file is opened
again. -/

def Stored (crates : Crates) (db : Database) (entry : QueuedTx) : Prop :=
  ∃ record, db.record crates record.envelope.messageId.toVec = some record ∧
    db.statusText record.envelope.messageId.toVec =
      some SettlementStatus.queued.asStr ∧
    entry = record.queuedTx

def Device.Waiting (crates : Crates) (device : Device) (entry : QueuedTx) :
    Prop :=
  match device.engine with
  | some engine => entry ∈ engine.queue.entries
  | none => Stored crates device.db entry

theorem Stored.of_status {db after : Database} {written : Bytes}
    {next : SettlementStatus} {entry : QueuedTx}
    (stored : Stored crates after entry) (moved : next ≠ .queued)
    (envelopes : after.queuedEnvelopes = db.queuedEnvelopes)
    (status : ∀ key, after.statusText key =
      if key = written then some next.asStr else db.statusText key) :
    Stored crates db entry := by
  obtain ⟨record, found, queued, rfl⟩ := stored
  rw [status] at queued
  split at queued
  · exact absurd (SettlementStatus.asStr_injective
      (Option.some_inj.mp queued)) moved
  · rw [Database.record, envelopes] at found
    exact ⟨record, found, queued, rfl⟩

theorem Stored.of_enqueued {db : Database} {payment : QueuedEnvelopeRecord}
    {envelopeBytes : Bytes} {entry : QueuedTx}
    (stored : Stored crates (SyncEngine.enqueued db payment envelopeBytes)
      entry)
    (encoded : crates.rmpSerde.toVec payment.envelope = .ok envelopeBytes) :
    Stored crates db entry ∨ entry = payment.queuedTx := by
  obtain ⟨record, found, queued, rfl⟩ := stored
  rw [Database.record_enqueued encoded] at found
  rw [Database.statusText_enqueued] at queued
  split at found
  · obtain rfl := Option.some_inj.mp found
    exact Or.inr rfl
  · rename_i other
    rw [if_neg other] at queued
    exact Or.inl ⟨record, found, queued, rfl⟩

theorem Stored.waiting {device : Device} (sound : device.Sound crates)
    {entry : QueuedTx} (stored : Stored crates device.db entry) :
    device.Waiting crates entry := by
  obtain ⟨db, alive⟩ := device
  cases alive with
  | none => exact stored
  | some engine =>
      obtain ⟨record, found, queued, rfl⟩ := stored
      exact (sound.engine engine rfl).complete record found queued

theorem ClockFollowsSequence.of_waiting {device : Device} {label : Label}
    {payment : QueuedEnvelopeRecord} {entry : QueuedTx}
    (follows : ClockFollowsSequence crates device label)
    (stores : payment ∈ label.call.stores crates device)
    (waiting : device.Waiting crates entry) :
    (entry.Precedes crates payment.queuedTx →
      entry.enqueuedAt < payment.enqueuedAt) ∧
    (payment.queuedTx.Precedes crates entry →
      payment.enqueuedAt < entry.enqueuedAt) := by
  obtain ⟨db, alive⟩ := device
  cases alive with
  | none => simp [Call.stores] at stores
  | some engine => exact follows engine rfl payment stores entry waiting

/-- All that a step adds to the queue is the payment it commits. -/
theorem waiting_of_effect {device after : Device} {label : Label}
    (sound : device.Sound crates) (effect : Effect crates device label after)
    {entry : QueuedTx} (waiting : after.Waiting crates entry) :
    device.Waiting crates entry ∨
      ∃ payment ∈ label.call.stores crates device,
        entry = payment.queuedTx := by
  cases effect with
  | unchanged silent => exact Or.inl waiting
  | stopped silent =>
      exact Or.inl (Stored.waiting sound waiting)
  | opened onFile rebuilt =>
      exact Or.inl ((rebuilt.entries entry).mp waiting)
  | seededInMemory => exact Or.inl waiting
  | seeded survives =>
      rcases survives with rfl | rfl
      · exact Or.inl (Stored.waiting sound waiting)
      · exact Or.inl waiting
  | rolledBack => exact Or.inl waiting
  | @paid db engine survivor request stamp unixNow write reply payment
      envelopeBytes taken accepts committed survives effective =>
      have added : entry ∈ engine.queue.entries ∨ entry = payment.queuedTx := by
        rcases survives with rfl | rfl
        · rcases Stored.of_enqueued waiting accepts.encoded with old | new
          · exact Or.inl (Stored.waiting sound old)
          · exact Or.inr new
        · have pushed := engine.queue.heap.toList_push_perm payment.queuedTx
          exact (List.mem_cons.mp (pushed.mem_iff.mp waiting)).symm
      exact added.imp id fun new => ⟨payment, accepts.stores effective, new⟩
  | @dispatched db engine head rest unixNow popped =>
      exact Or.inl (BinaryHeap.mem_of_mem_rest popped waiting)
  | @dispatchCut db engine head rest unixNow popped =>
      have old : Stored crates db entry := Stored.of_status waiting
        (by decide : SettlementStatus.propagating ≠ .queued) rfl
        fun key => db.statusText_replaceStatus _ key _ _
      exact Or.inl (Stored.waiting sound old)
  | @marked db after engine survivor messageId current next updatedAt writes
      reply held legal envelopes reservations status survives =>
      rcases survives with rfl | ⟨_, ⟨_, rfl⟩ | ⟨_, rfl⟩⟩
      · have old : Stored crates db entry := Stored.of_status waiting
          (SettlementStatus.ne_queued_of_canTransitionTo legal) envelopes
          status
        exact Or.inl (Stored.waiting sound old)
      · exact Or.inl waiting
      · exact Or.inl waiting

/-- The order of the readings in the queue is the order of the numbers. -/
def Sequenced (crates : Crates) (device : Device) : Prop :=
  ∀ first second, device.Waiting crates first →
    device.Waiting crates second → first.Precedes crates second →
      first.enqueuedAt < second.enqueuedAt

theorem sequenced_of_effect {device after : Device} {label : Label}
    (sound : device.Sound crates)
    (follows : ClockFollowsSequence crates device label)
    (sequenced : Sequenced crates device)
    (effect : Effect crates device label after) :
    Sequenced crates after := by
  intro first second firstWaits secondWaits precedes
  rcases waiting_of_effect sound effect firstWaits with
    firstOld | ⟨payment, stores, rfl⟩
  · rcases waiting_of_effect sound effect secondWaits with
      secondOld | ⟨payment, stores, rfl⟩
    · exact sequenced first second firstOld secondOld precedes
    · exact (follows.of_waiting stores firstOld).1 precedes
  · rcases waiting_of_effect sound effect secondWaits with
      secondOld | ⟨other, storesOther, rfl⟩
    · exact (follows.of_waiting stores secondOld).2 precedes
    · obtain rfl := Option.mem_unique stores storesOther
      exact absurd precedes (QueuedTx.Precedes.irrefl _)

/-- If the clock follows the sequence numbers, the entry handed to the mesh is
preceded by no other entry in the queue. -/
theorem sequence_order_respected {trace : List Label} {device after : Device}
    {label : Label} {envelope : TransactionEnvelope}
    (run : (fileEngine crates file).RunUnder
      (fun _ device label => ClockFollowsSequence crates device label)
      trace device)
    (stepped : (fileEngine crates file).step device label after)
    (handed : label.dispatched = some envelope) :
    ∃ engine, device.engine = some engine ∧
      ∃ head ∈ engine.queue.entries, head.envelope = envelope ∧
        ∀ other ∈ engine.queue.entries, ¬ other.Precedes crates head := by
  have sequenced := run_invariant (fun _ device => Sequenced crates device)
    ?_ (fun _ _ _ _ prior sequenced follows effect =>
      sequenced_of_effect (run_sound prior) follows sequenced effect) run
  · obtain ⟨engine, head, rest, alive, popped, rfl⟩ :=
      head_of_dispatched (step_effect (run_sound run) stepped) handed
    obtain ⟨db, _⟩ := device
    obtain rfl := alive
    refine ⟨engine, rfl, head, BinaryHeap.mem_of_pop popped, rfl, ?_⟩
    intro other waiting precedes
    have earlier : head.enqueuedAt ≤ other.enqueuedAt :=
      (QueuedTx.leq_of_same_priority precedes.1).mp
        (BinaryHeap.leq_of_pop popped waiting)
    have later := sequenced other head waiting
      (BinaryHeap.mem_of_pop popped) precedes
    exact absurd later (UInt64.not_lt.mpr earlier)
  · rintro first second ⟨record, found, _⟩
    simp [Database.record, Database.empty] at found

/-- Of four payments queued within one second, the third one is handed out
before the second. -/
theorem sequence_order_reversed :
    ∃ (trace : List Label) (device : Device) (label : Label) (after : Device),
      (fileEngine Sample.crates Sample.file).Run trace device ∧
        (fileEngine Sample.crates Sample.file).step device label after ∧
        ∃ engine ∈ device.engine, ∃ head ∈ engine.queue.entries,
          label.dispatched = some head.envelope ∧
            ∃ other ∈ engine.queue.entries,
              other.Precedes Sample.crates head :=
  exists_step Sample.crates Sample.file (fun _ _ _ => True)
    (fun _ device label _ =>
      ∃ engine ∈ device.engine, ∃ head ∈ engine.queue.entries,
        label.dispatched = some head.envelope ∧
          ∃ other ∈ engine.queue.entries, other.Precedes Sample.crates head)
    [Sample.openEmpty,
      .queuePayment (Sample.request "AQ") (Sample.stamp 1) 1000 .applied,
      .queuePayment (Sample.request "Ag") (Sample.stamp 2) 1000 .applied,
      .queuePayment (Sample.request "Aw") (Sample.stamp 3) 1000 .applied,
      .queuePayment (Sample.request "BA") (Sample.stamp 4) 1000 .applied,
      .nextToDispatch 1001 .applied]
    (.nextToDispatch 1002 .applied) (by decide +kernel)

/-- Four payments a second apart, the last one committed by a call that was cut
off. -/
theorem sequence_order_respected_four :
    ∃ (device : Device) (engine : SyncEngine), device.engine = some engine ∧
      engine.queue.len = 3 ∧
      ∃ head ∈ engine.queue.entries, head.envelope = Sample.envelope "Ag" 2 ∧
        ∀ other ∈ engine.queue.entries,
          ¬ other.Precedes Sample.crates head := by
  obtain ⟨trace, device, label, after, run, stepped, three, handed⟩ :=
    exists_step Sample.crates Sample.file
      (fun _ device label => ClockFollowsSequence Sample.crates device label)
      (fun _ device label _ =>
        (∀ engine ∈ device.engine, engine.queue.len = 3) ∧
        label.dispatched = some (Sample.envelope "Ag" 2))
      [Sample.openEmpty,
        .queuePayment (Sample.request "AQ") (Sample.stamp 1) 1000 .applied,
        .queuePayment (Sample.request "Ag") (Sample.stamp 2) 1001 .applied,
        .queuePayment (Sample.request "Aw") (Sample.stamp 3) 1002 .applied,
        .queuePayment (Sample.request "BA") (Sample.stamp 4) 1003 .lostAfter,
        Sample.reopen 4 [Sample.row 4 1003, Sample.row 2 1001,
          Sample.row 1 1000, Sample.row 3 1002] (by decide +kernel),
        .nextToDispatch 1004 .applied]
      (.nextToDispatch 1005 .applied) (by decide +kernel)
  obtain ⟨engine, alive, head⟩ :=
    sequence_order_respected run stepped handed
  exact ⟨device, engine, alive, three engine alive, head⟩

end StellarConduit
