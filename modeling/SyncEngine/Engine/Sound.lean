import SyncEngine.Engine.Run

namespace StellarConduit

open Data

/-! The invariant of `Device.Sound` along every run, and the rule by which all
further invariants are proved from the effects of a step. -/

variable {crates : Crates}

namespace Database

variable {db after : Database} {payment : QueuedEnvelopeRecord}
  {envelopeBytes : Bytes}

theorem statusText_enqueued (key : Bytes) :
    (SyncEngine.enqueued db payment envelopeBytes).statusText key =
      if key = payment.envelope.messageId.toVec then
        some SettlementStatus.queued.asStr
      else db.statusText key :=
  statusText_replaceStatus _ _ _ _ _

theorem lookup_enqueued (key : Bytes) :
    (SyncEngine.enqueued db payment envelopeBytes).queuedEnvelopes.lookup key =
      if key = payment.envelope.messageId.toVec then
        some ⟨payment.sourceAccount, payment.sequence, payment.priority.toI64,
          payment.enqueuedAt.toInt64, envelopeBytes⟩
      else db.queuedEnvelopes.lookup key :=
  HashMap.lookup_insert_ite _ _ _ _

theorem reservation_enqueued (account : String) :
    (SyncEngine.enqueued db payment envelopeBytes).sequenceReservations.lookup
        account =
      if account = payment.sourceAccount then some payment.sequence
      else db.sequenceReservations.lookup account :=
  HashMap.lookup_insert_ite _ _ _ _

theorem decode_payment
    (encoded : crates.rmpSerde.toVec payment.envelope = .ok envelopeBytes) :
    SyncEngineDb.init.decodeQueuedEnvelope crates
        ⟨payment.sourceAccount, payment.sequence, payment.priority.toI64,
          payment.enqueuedAt.toInt64, envelopeBytes⟩ = .ok payment := by
  have decoded := crates.rmpSerde.fromSlice_toVec _ _ encoded
  simp [SyncEngineDb.decodeQueuedEnvelope, SyncEngineDb.init, decoded, bind,
    Except.bind, pure, Except.pure]

theorem record_enqueued
    (encoded : crates.rmpSerde.toVec payment.envelope = .ok envelopeBytes)
    (key : Bytes) :
    (SyncEngine.enqueued db payment envelopeBytes).record crates key =
      if key = payment.envelope.messageId.toVec then some payment
      else db.record crates key := by
  rw [record, lookup_enqueued]
  split
  · simp [decode_payment encoded, Except.toOption]
  · rfl

theorem intact_empty : empty.Intact crates where
  decodes := by simp [empty]
  tracked := by simp [empty, statusText]
  statuses := by simp [empty, statusText]

theorem intact_enqueued (intact : db.Intact crates)
    (encoded : crates.rmpSerde.toVec payment.envelope = .ok envelopeBytes) :
    (SyncEngine.enqueued db payment envelopeBytes).Intact crates where
  decodes := by
    intro key columns held
    rw [lookup_enqueued] at held
    split at held
    · rename_i same
      obtain rfl := Option.some_inj.mp held
      exact ⟨payment, decode_payment encoded, same.symm⟩
    · exact intact.decodes key columns held
  tracked := by
    intro key
    rw [lookup_enqueued, statusText_enqueued]
    split
    · rfl
    · exact intact.tracked key
  statuses := by
    intro key text held
    rw [statusText_enqueued] at held
    split at held
    · exact ⟨.queued, (Option.some_inj.mp held).symm⟩
    · exact intact.statuses key text held

theorem intact_of_status (intact : db.Intact crates) {written : Bytes}
    {next : SettlementStatus} (present : (db.statusText written).isSome)
    (envelopes : after.queuedEnvelopes = db.queuedEnvelopes)
    (status : ∀ key, after.statusText key =
      if key = written then some next.asStr else db.statusText key) :
    after.Intact crates where
  decodes := by
    rw [envelopes]
    exact intact.decodes
  tracked := by
    intro key
    rw [envelopes, status, intact.tracked]
    split
    · rename_i same
      rw [same, present]
      rfl
    · rfl
  statuses := by
    intro key text held
    rw [status] at held
    split at held
    · exact ⟨next, (Option.some_inj.mp held).symm⟩
    · exact intact.statuses key text held

theorem isSome_of_status {written : Bytes} {next : SettlementStatus}
    (present : (db.statusText written).isSome)
    (status : ∀ key, after.statusText key =
      if key = written then some next.asStr else db.statusText key)
    (key : Bytes) :
    (after.statusText key).isSome = (db.statusText key).isSome := by
  rw [status]
  split
  · rename_i same
    rw [same, present]
    rfl
  · rfl

end Database

namespace SyncEngine

variable {db : Database} {engine : SyncEngine}

theorem Reopened.sound (onFile : engine.dispatchConn = .file)
    (rebuilt : engine.Reopened crates db) : engine.Sound crates db where
  unguarded := rebuilt.unguarded
  onFile := onFile
  tracked := by
    intro messageId
    rw [← rebuilt.status messageId, Option.isSome_map]
  stored := by
    intro entry member
    obtain ⟨record, _, queued, rfl⟩ := (rebuilt.entries entry).mp member
    exact Option.isSome_of_eq_some queued
  complete := by
    intro record found queued
    exact (rebuilt.entries _).mpr ⟨record, found, queued, rfl⟩

theorem Sound.withSequences (sound : engine.Sound crates db)
    (after : Database)
    (envelopes : after.queuedEnvelopes = db.queuedEnvelopes)
    (status : after.settlementStatus = db.settlementStatus)
    (sequences : SequenceReservationManager) :
    SyncEngine.Sound crates after { engine with sequences := sequences } := by
  have sameText (key : Bytes) : after.statusText key = db.statusText key := by
    rw [Database.statusText, status, Database.statusText]
  have sameRecord (key : Bytes) :
      after.record crates key = db.record crates key := by
    rw [Database.record, envelopes, Database.record]
  obtain ⟨unguarded, onFile, tracked, stored, complete⟩ := sound
  exact ⟨unguarded, onFile, by simpa only [sameText] using tracked,
    by simpa only [sameText] using stored,
    by simpa only [sameText, sameRecord] using complete⟩

theorem Sound.withPayment (sound : engine.Sound crates db)
    {payment : QueuedEnvelopeRecord} {envelopeBytes : Bytes}
    (encoded : crates.rmpSerde.toVec payment.envelope = .ok envelopeBytes)
    (taken : SequenceReservationManager) :
    (engine.withPayment payment taken).Sound crates
      (enqueued db payment envelopeBytes) where
  unguarded := sound.unguarded
  onFile := sound.onFile
  tracked := by
    intro messageId
    rw [Database.statusText_enqueued]
    simp only [SyncEngine.withPayment, SettlementTracker.status_track,
      Bytes32.toVec_inj]
    split
    · rfl
    · exact sound.tracked messageId
  stored := by
    intro entry member
    rw [Database.statusText_enqueued]
    rcases BinaryHeap.mem_push.mp member with rfl | inherited
    · simp [QueuedEnvelopeRecord.queuedTx]
    · split
      · rfl
      · exact sound.stored entry inherited
  complete := by
    intro record found queued
    refine BinaryHeap.mem_push.mpr ?_
    rw [Database.record_enqueued encoded] at found
    rw [Database.statusText_enqueued] at queued
    split at found
    · exact Or.inl (congrArg _ (Option.some_inj.mp found)).symm
    · rename_i other
      rw [if_neg other] at queued
      exact Or.inr (sound.complete record found queued)

/-- A status other than `Queued`, written for an envelope that has one, may
take an entry of that envelope out of the queue. -/
theorem Sound.withStatus (sound : engine.Sound crates db)
    (after : Database) {messageId : Bytes32} {next : SettlementStatus}
    (present : (db.statusText messageId.toVec).isSome)
    (envelopes : after.queuedEnvelopes = db.queuedEnvelopes)
    (status : ∀ key, after.statusText key =
      if key = messageId.toVec then some next.asStr else db.statusText key)
    (moved : next ≠ .queued) {queue : OutboundTxQueue}
    {settlement : SettlementTracker}
    (unguarded : queue.emergencyGuard = none)
    (kept : ∀ entry ∈ queue.entries, entry ∈ engine.queue.entries)
    (removed : ∀ entry ∈ engine.queue.entries,
      entry.envelope.messageId ≠ messageId → entry ∈ queue.entries)
    (tracked : ∀ other, (settlement.status other).isSome =
      (engine.settlement.status other).isSome) :
    SyncEngine.Sound crates after
      { engine with queue := queue, settlement := settlement } where
  unguarded := unguarded
  onFile := sound.onFile
  tracked := by
    intro other
    rw [Database.isSome_of_status present status]
    exact (tracked other).trans (sound.tracked other)
  stored := by
    intro entry member
    rw [Database.isSome_of_status present status]
    exact sound.stored entry (kept entry member)
  complete := by
    intro record found queued
    rw [Database.record, envelopes] at found
    rw [status] at queued
    split at queued
    · exact absurd (SettlementStatus.asStr_injective
        (Option.some_inj.mp queued)) moved
    · rename_i other
      refine removed _ (sound.complete record found queued) ?_
      exact fun same => other (congrArg Bytes32.toVec same)

end SyncEngine

theorem SyncEngine.mem_of_popped {engine : SyncEngine} {head entry : QueuedTx}
    {rest : BinaryHeap QueuedTx}
    (popped : engine.queue.heap.pop = some (head, rest)) :
    entry ∈ engine.queue.entries ↔ entry = head ∨ entry ∈ rest.toList := by
  rw [OutboundTxQueue.entries, (BinaryHeap.toList_pop_perm popped).mem_iff,
    List.mem_cons]

theorem SettlementTracker.isSome_transitionIgnored
    (tracker : SettlementTracker) (messageId other : Bytes32)
    (next : SettlementStatus) :
    ((tracker.transitionIgnored messageId next).status other).isSome =
      (tracker.status other).isSome := by
  rw [SettlementTracker.status_transitionIgnored]
  split
  · rename_i same
    rw [same, Option.isSome_map]
  · rfl

theorem Device.sound_of_db {db : Database} (intact : db.Intact crates) :
    Device.Sound crates ⟨db, none⟩ where
  intact := intact
  engine := by simp

theorem Device.sound_of_engine {db : Database} {engine : SyncEngine}
    (intact : db.Intact crates) (sound : engine.Sound crates db) :
    Device.Sound crates ⟨db, some engine⟩ where
  intact := intact
  engine := by
    intro other same
    obtain rfl := Option.some_inj.mp same
    exact sound

theorem Device.sound_of_survives {db : Database} {engine : SyncEngine}
    {survivor : Option SyncEngine} (survives : Survives survivor engine)
    (intact : db.Intact crates) (sound : engine.Sound crates db) :
    Device.Sound crates ⟨db, survivor⟩ := by
  rcases survives with rfl | rfl
  · exact sound_of_db intact
  · exact sound_of_engine intact sound

theorem effect_sound {device after : Device} {label : Label}
    (sound : device.Sound crates) (effect : Effect crates device label after) :
    after.Sound crates := by
  obtain ⟨intact, engineSound⟩ := sound
  cases effect with
  | unchanged silent => exact ⟨intact, engineSound⟩
  | stopped silent => exact Device.sound_of_db intact
  | opened onFile rebuilt =>
      exact Device.sound_of_engine intact (rebuilt.sound onFile)
  | seededInMemory =>
      exact Device.sound_of_engine intact
        ((engineSound _ rfl).withSequences _ rfl rfl _)
  | @seeded db engine survivor account baseline write reply survives =>
      refine Device.sound_of_survives survives ?_ ?_
      · exact ⟨intact.decodes, intact.tracked, intact.statuses⟩
      · exact (engineSound _ rfl).withSequences
          (db.replaceReservation account baseline) rfl rfl _
  | rolledBack =>
      exact Device.sound_of_engine intact
        ((engineSound _ rfl).withSequences _ rfl rfl _)
  | paid accepts committed survives =>
      exact Device.sound_of_survives survives
        (Database.intact_enqueued intact accepts.encoded)
        ((engineSound _ rfl).withPayment accepts.encoded _)
  | @dispatched db engine head rest unixNow popped =>
      have present := (engineSound _ rfl).stored head
        (BinaryHeap.mem_of_pop popped)
      have status := fun key => db.statusText_replaceStatus
        head.envelope.messageId.toVec key .propagating unixNow
      refine Device.sound_of_engine
        (Database.intact_of_status intact present rfl status)
        ((engineSound _ rfl).withStatus
          (db.replaceStatus head.envelope.messageId.toVec .propagating unixNow)
          present rfl status (by decide)
          (engineSound _ rfl).unguarded ?_ ?_ ?_)
      · exact fun entry member =>
          BinaryHeap.mem_of_mem_rest popped member
      · intro entry member other
        rcases (SyncEngine.mem_of_popped popped).mp member with rfl | kept
        · exact absurd rfl other
        · exact kept
      · exact fun other =>
          SettlementTracker.isSome_transitionIgnored _ _ _ _
  | @dispatchCut db engine head rest unixNow popped =>
      have present := (engineSound _ rfl).stored head
        (BinaryHeap.mem_of_pop popped)
      exact Device.sound_of_db (Database.intact_of_status intact present rfl
        fun key => db.statusText_replaceStatus
          head.envelope.messageId.toVec key .propagating unixNow)
  | @marked db after engine survivor messageId current next updatedAt writes
      reply held legal envelopes reservations status survives =>
      have moved := SettlementStatus.ne_queued_of_canTransitionTo legal
      have present : (db.statusText messageId.toVec).isSome := by
        rw [← (engineSound _ rfl).tracked messageId, held]
        rfl
      have intactAfter :=
        Database.intact_of_status intact present envelopes status
      have marked : SyncEngine.Sound crates after { engine with
          settlement := engine.settlement.restore messageId next } := by
        refine (engineSound _ rfl).withStatus _ present envelopes status moved
          (engineSound _ rfl).unguarded (fun _ member => member)
          (fun _ member _ => member) ?_
        intro other
        rw [SettlementTracker.status_restore]
        split
        · rename_i same
          rw [same, held]
          rfl
        · rfl
      have unmarked : SyncEngine.Sound crates after engine :=
        (engineSound _ rfl).withStatus _ present envelopes status moved
          (engineSound _ rfl).unguarded (fun _ member => member)
          (fun _ member _ => member) fun _ => rfl
      rcases survives with rfl | ⟨_, ⟨_, rfl⟩ | ⟨_, rfl⟩⟩
      · exact Device.sound_of_db intactAfter
      · exact Device.sound_of_engine intactAfter marked
      · exact Device.sound_of_engine intactAfter unmarked

section

variable {file : DatabaseFile} {guard : List Label → Device → Label → Prop}
  {trace : List Label} {device : Device}

theorem run_sound
    (run : (fileEngine crates file).RunUnder guard trace device) :
    device.Sound crates := by
  refine run.invariant (fun _ device => device.Sound crates) ?_ ?_
  · rintro _ rfl
    exact Device.sound_of_db Database.intact_empty
  · intro _ _ _ _ _ sound _ stepped
    exact effect_sound sound (step_effect sound stepped)

/-- What holds of the empty database without an engine and is preserved by
every effect holds along every run. -/
theorem run_invariant (inv : List Label → Device → Prop)
    (initial : inv [] ⟨.empty, none⟩)
    (preserved : ∀ trace device label after,
      (fileEngine crates file).RunUnder guard trace device →
      inv trace device → guard trace device label →
      Effect crates device label after → inv (trace ++ [label]) after)
    (run : (fileEngine crates file).RunUnder guard trace device) :
    inv trace device := by
  refine run.invariant inv ?_ ?_
  · rintro _ rfl
    exact initial
  · intro _ _ _ _ prior holds guarded stepped
    exact preserved _ _ _ _ prior holds guarded
      (step_effect (run_sound prior) stepped)

end

end StellarConduit
