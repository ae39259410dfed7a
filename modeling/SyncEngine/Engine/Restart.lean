import SyncEngine.Data.Machine
import SyncEngine.Engine.Agreement
import SyncEngine.Engine.Order
import SyncEngine.Engine.Reservations

namespace StellarConduit

open Data

/-! A restart drops the engine and opens its file again. The driver of an engine
sees what its calls answer and what they leave on disk. -/

variable {crates : Crates} {file : DatabaseFile}

section

variable (crates : Crates) (file : DatabaseFile)

/-- A call that cannot be made leaves the device as it is. -/
def Device.after (device : Device) (call : Call) : Device :=
  ((device.perform crates file call).map Prod.snd).getD device

/-- What a call answers, and the database it leaves. -/
def Device.shows (device : Device) (call : Call) : Option (Reply × Database) :=
  (device.perform crates file call).map fun outcome =>
    (outcome.1, outcome.2.db)

def Device.shown (device : Device) (calls : List Call) :
    List (Option (Reply × Database)) :=
  Machine.answers (Device.after crates file) (Device.shows crates file) device
    calls

end

/-- A dispatch finds one foremost payment in the queue, unless there is none. -/
def Device.Untied (device : Device) (call : Call) : Prop :=
  match call with
  | .nextToDispatch _ _ => ∀ engine ∈ device.engine,
      ∀ first ∈ engine.queue.entries, ∀ second ∈ engine.queue.entries,
        (∀ other ∈ engine.queue.entries,
          leq other first = true ∧
            leq other second = true) → first = second
  | _ => True

instance (device : Device) (call : Call) : Decidable (device.Untied call) :=
  match call with
  | .nextToDispatch _ _ =>
      inferInstanceAs (Decidable (∀ engine ∈ device.engine,
        ∀ first ∈ engine.queue.entries, ∀ second ∈ engine.queue.entries,
          (∀ other ∈ engine.queue.entries,
            leq other first = true ∧ leq other second = true) →
              first = second))
  | .openPath _ _ => .isTrue trivial
  | .drop => .isTrue trivial
  | .seedAccount _ _ _ => .isTrue trivial
  | .queuePayment _ _ _ _ => .isTrue trivial
  | .markSettlement _ _ _ _ => .isTrue trivial

/-- Two engines over one database that hold the same queue up to the order of
its array. An account without a reservation counts as reserved up to 0, where
`queue_payment` would seed it. -/
structure SyncEngine.Matches (first second : SyncEngine) : Prop where
  unguarded : first.queue.emergencyGuard = none ∧
    second.queue.emergencyGuard = none
  onFile : first.dispatchConn = .file ∧ second.dispatchConn = .file
  reserved : ∀ account, (first.sequences.lastReserved account).getD 0 =
    (second.sequences.lastReserved account).getD 0
  status : ∀ messageId, first.settlement.status messageId =
    second.settlement.status messageId
  entries : first.queue.entries.Perm second.queue.entries

inductive Device.Matches : Device → Device → Prop
  | same (device : Device) : Device.Matches device device
  | running (db : Database) {first second : SyncEngine}
      (engines : first.Matches second) :
      Device.Matches ⟨db, some first⟩ ⟨db, some second⟩

/-! What a call makes of matching engines. -/

namespace SyncEngine

/-- Two outcomes with the same answer, on the same database, and matching
engines. -/
inductive SameOutcome : Outcome Database (SyncEngine × α) →
    Outcome Database (SyncEngine × α) → Prop
  | crashed (db : Database) : SameOutcome (.crashed db) (.crashed db)
  | returned (db : Database) {first second : SyncEngine}
      (engines : first.Matches second) (answer : α) :
      SameOutcome (.returned db (first, answer))
        (.returned db (second, answer))

theorem SameOutcome.settled {first second : Outcome Database (SyncEngine × α)}
    (same : SameOutcome first second) (reply : α → Reply) :
    (Device.settle first reply).1 = (Device.settle second reply).1 ∧
      (Device.settle first reply).2.db = (Device.settle second reply).2.db ∧
      (Device.settle first reply).2.Matches (Device.settle second reply).2 := by
  cases same with
  | crashed db => exact ⟨rfl, rfl, .same _⟩
  | returned db engines answer => exact ⟨rfl, rfl, .running db engines⟩

variable {first second : SyncEngine}

namespace Matches

theorem withSequences (engines : first.Matches second)
    {sequences others : SequenceReservationManager}
    (reserved : ∀ account, (sequences.lastReserved account).getD 0 =
      (others.lastReserved account).getD 0) :
    SyncEngine.Matches { first with sequences := sequences }
      { second with sequences := others } :=
  ⟨engines.unguarded, engines.onFile, reserved, engines.status,
    engines.entries⟩

theorem seedAccount (engines : first.Matches second) (account : String)
    (baseline : Int64) (write : Write) (db : Database) :
    SameOutcome (first.seedAccount account baseline write db)
      (second.seedAccount account baseline write db) := by
  have reserved (other : String) :
      ((first.sequences.seed account baseline).lastReserved other).getD 0 =
        ((second.sequences.seed account baseline).lastReserved other).getD
          0 := by
    simp only [SequenceReservationManager.lastReserved_seed]
    split
    · rfl
    · exact engines.reserved other
  have seeded := engines.withSequences reserved
  rw [seedAccount_cases, seedAccount_cases]
  cases write with
  | applied => exact .returned _ seeded _
  | refused => exact .returned _ seeded _
  | lostBefore => exact .crashed _
  | lostAfter => exact .crashed _

theorem ensureSeeded (engines : first.Matches second) (account : String) :
    ∃ last,
      (SyncEngine.ensureSeeded first.sequences account).lastReserved account =
        some last ∧
      (SyncEngine.ensureSeeded second.sequences account).lastReserved account =
        some last ∧
      ∀ other,
        ((SyncEngine.ensureSeeded first.sequences account).lastReserved
            other).getD 0 =
          ((SyncEngine.ensureSeeded second.sequences account).lastReserved
            other).getD 0 := by
  refine ⟨(first.sequences.lastReserved account).getD 0, ?_, ?_, ?_⟩
  · rw [lastReserved_ensureSeeded, if_pos rfl]
  · rw [lastReserved_ensureSeeded, if_pos rfl, engines.reserved account]
  · intro other
    rw [lastReserved_ensureSeeded, lastReserved_ensureSeeded]
    split
    · simp [engines.reserved account]
    · exact engines.reserved other

theorem withPayment (engines : first.Matches second)
    {sequences others : SequenceReservationManager}
    (reserved : ∀ account, (sequences.lastReserved account).getD 0 =
      (others.lastReserved account).getD 0)
    (entry : QueuedTx) :
    SyncEngine.Matches
      { first with
        sequences := sequences
        queue := { first.queue with heap := first.queue.heap.push entry }
        settlement := first.settlement.track entry.envelope.messageId }
      { second with
        sequences := others
        queue := { second.queue with heap := second.queue.heap.push entry }
        settlement := second.settlement.track entry.envelope.messageId } where
  unguarded := engines.unguarded
  onFile := engines.onFile
  reserved := reserved
  status := by
    intro messageId
    simp only [SettlementTracker.status_track, engines.status]
  entries :=
    (first.queue.heap.toList_push_perm entry).trans
      ((engines.entries.cons entry).trans
        (second.queue.heap.toList_push_perm entry).symm)

theorem queuePayment (engines : first.Matches second) (crates : Crates)
    (request : PaymentRequest) (stamp : EnvelopeStamp) (unixNow : UInt64)
    (write : Write) (db : Database) :
    SameOutcome (first.queuePayment crates request stamp unixNow write db)
      (second.queuePayment crates request stamp unixNow write db) := by
  obtain ⟨last, held, alsoHeld, seeded⟩ :=
    engines.ensureSeeded request.sourceAccount
  rcases OfflineEnvelopeBuilder.buildAndSign_of_lastReserved crates
      request.sourceAccount last request.signingKey .classicalOnly
      request.txXdr request.ttlHops with ⟨error, _, rejects⟩ | signs
  · simp only [SyncEngine.queuePayment, rejects _ stamp held,
      rejects _ stamp alsoHeld]
    exact .returned db (engines.withSequences seeded) _
  · have rolledBack {manager : SequenceReservationManager}
        (held : manager.lastReserved request.sourceAccount = some last) :=
      SequenceReservationManager.releaseIgnored_reserveNext
        (SequenceReservationManager.reserveNext_of_reserved held)
    simp only [SyncEngine.queuePayment, signs _ stamp held,
      signs _ stamp alsoHeld]
    cases SyncEngineDb.init.enqueueTransaction crates
        (OfflineEnvelopeBuilder.signHybrid crates .classicalOnly
          (EnvelopeBuilder.build (crates.verifyingKey request.signingKey)
            request.txXdr request.ttlHops stamp)).classicalEnvelope
        request.sourceAccount (last + 1) request.priority unixNow write
        db with
    | crashed db => exact .crashed db
    | returned db enqueued =>
        cases enqueued with
        | error error =>
            simp only [Outcome.bind_returned, rolledBack held,
              rolledBack alsoHeld]
            exact .returned db (engines.withSequences seeded) _
        | ok done =>
            simp only [Outcome.bind_returned,
              OutboundTxQueue.pushAt_unguarded engines.unguarded.1,
              OutboundTxQueue.pushAt_unguarded engines.unguarded.2]
            refine .returned db (engines.withPayment ?_
              ⟨request.priority, unixNow, _⟩) _
            intro account
            rw [SequenceReservationManager.lastReserved,
              SequenceReservationManager.lastReserved,
              HashMap.lookup_insert_ite, HashMap.lookup_insert_ite]
            split
            · rfl
            · exact seeded account

theorem nextToDispatch (engines : first.Matches second) (unixNow : UInt64)
    (write : Write) (db : Database)
    (untied : Device.Untied ⟨db, some first⟩ (.nextToDispatch unixNow write)) :
    SameOutcome (first.nextToDispatch unixNow write db)
      (second.nextToDispatch unixNow write db) := by
  rcases nextToDispatch_cases engines.onFile.1 unixNow write db with
    ⟨empty, outcome⟩ | ⟨head, rest, popped, outcome⟩
  · rcases nextToDispatch_cases engines.onFile.2 unixNow write db with
      ⟨_, same⟩ | ⟨head, rest, popped, _⟩
    · rw [outcome, same]
      exact .returned db engines none
    · have held : head ∈ first.queue.entries :=
        engines.entries.mem_iff.mpr (BinaryHeap.mem_of_pop popped)
      simp [empty] at held
  · rcases nextToDispatch_cases engines.onFile.2 unixNow write db with
      ⟨empty, _⟩ | ⟨other, others, alsoPopped, same⟩
    · have held : head ∈ second.queue.entries :=
        engines.entries.mem_iff.mp (BinaryHeap.mem_of_pop popped)
      simp [empty] at held
    · obtain rfl : head = other := by
        refine untied first rfl head (BinaryHeap.mem_of_pop popped) other
          (engines.entries.mem_iff.mpr (BinaryHeap.mem_of_pop alsoPopped)) ?_
        intro entry member
        exact ⟨BinaryHeap.leq_of_pop popped member,
          BinaryHeap.leq_of_pop alsoPopped (engines.entries.mem_iff.mp member)⟩
      have left : rest.toList.Perm others.toList :=
        List.perm_cons head |>.mp
          (((BinaryHeap.toList_pop_perm popped).symm.trans
            engines.entries).trans (BinaryHeap.toList_pop_perm alsoPopped))
      have dispatched : SyncEngine.Matches (first.withoutHead head rest)
          (second.withoutHead head others) := by
        refine ⟨engines.unguarded, engines.onFile, engines.reserved, ?_, left⟩
        intro messageId
        simp only [withoutHead, SettlementTracker.status_transitionIgnored,
          engines.status]
      rw [outcome, same]
      cases write with
      | applied => exact .returned _ dispatched _
      | refused => exact .returned _ engines _
      | lostBefore => exact .crashed _
      | lostAfter => exact .crashed _

theorem markSettlement (engines : first.Matches second) (messageId : Bytes32)
    (next : SettlementStatus) (updatedAt : UInt64) (writes : StatusWrites)
    (db : Database) :
    SameOutcome (first.markSettlement messageId next updatedAt writes db)
      (second.markSettlement messageId next updatedAt writes db) := by
  simp only [SyncEngine.markSettlement]
  rw [← engines.status messageId]
  cases held : first.settlement.status messageId with
  | none => exact .returned db engines _
  | some current =>
      cases legal : current.canTransitionTo next with
      | false => simpa [legal] using .returned db engines _
      | true =>
          have alsoHeld := (engines.status messageId).symm.trans held
          simp only [legal, Bool.true_eq_false, if_false,
            SettlementTracker.transition_of_legal held legal,
            SettlementTracker.transition_of_legal alsoHeld legal]
          cases SyncEngineDb.setSettlementStatus messageId next updatedAt
              writes db with
          | crashed db => exact .crashed db
          | returned db persisted =>
              cases persisted with
              | error error => exact .returned db engines _
              | ok done =>
                  have marked : SyncEngine.Matches
                      { first with
                        settlement := first.settlement.restore messageId next }
                      { second with
                        settlement :=
                          second.settlement.restore messageId next } := by
                    refine ⟨engines.unguarded, engines.onFile,
                      engines.reserved, ?_, engines.entries⟩
                    intro other
                    simp only [SettlementTracker.status_restore,
                      engines.status]
                  exact .returned db marked _

end Matches

end SyncEngine

theorem Device.Matches.step {first second : Device}
    (devices : first.Matches second) {call : Call}
    (untied : first.Untied call) :
    first.shows crates file call = second.shows crates file call ∧
      (first.after crates file call).Matches
        (second.after crates file call) := by
  cases devices with
  | same => exact ⟨rfl, .same _⟩
  | @running db first second engines =>
      have settled {α : Type} {reply : α → Reply}
          {left right : Outcome Database (SyncEngine × α)}
          (same : SyncEngine.SameOutcome left right)
          (performed : Device.perform crates file ⟨db, some first⟩ call =
            some (Device.settle left reply))
          (alsoPerformed : Device.perform crates file ⟨db, some second⟩ call =
            some (Device.settle right reply)) :
          Device.shows crates file ⟨db, some first⟩ call =
              Device.shows crates file ⟨db, some second⟩ call ∧
            (Device.after crates file ⟨db, some first⟩ call).Matches
              (Device.after crates file ⟨db, some second⟩ call) := by
        obtain ⟨answer, left, matching⟩ := same.settled reply
        simp only [Device.shows, Device.after, performed, alsoPerformed,
          Option.map_some, Option.getD_some, answer, left]
        exact ⟨trivial, matching⟩
      cases call with
      | openPath scans read => exact ⟨rfl, .running db engines⟩
      | drop => exact ⟨rfl, .same _⟩
      | seedAccount account baseline write =>
          exact settled (engines.seedAccount account baseline write db) rfl rfl
      | queuePayment request stamp unixNow write =>
          exact settled (engines.queuePayment crates request stamp unixNow
            write db) rfl rfl
      | nextToDispatch unixNow write =>
          exact settled (engines.nextToDispatch unixNow write db untied)
            rfl rfl
      | markSettlement messageId next updatedAt writes =>
          exact settled (engines.markSettlement messageId next updatedAt writes
            db) rfl rfl

/-! When the engine in memory matches the one that its file would give. -/

/-- No baseline stays in memory alone, no settlement is marked for an envelope
in the queue, and the tracker accepts every status that is written. -/
structure KeepsInStep (device : Device) (label : Label) : Prop where
  seeds : match label.call with
    | .seedAccount _ _ write => write ≠ .refused
    | _ => True
  marks : MarksOutsideQueue device label
  follows : WritesFollowTracker device label

instance (device : Device) (label : Label) :
    Decidable (KeepsInStep device label) :=
  decidable_of_iff ((match label.call with
      | .seedAccount _ _ write => decide (write ≠ .refused)
      | _ => true) = true ∧ MarksOutsideQueue device label ∧
        WritesFollowTracker device label) <| by
    obtain ⟨call, reply⟩ := label
    constructor
    · rintro ⟨seeds, marks, follows⟩
      exact ⟨by cases call <;> simp_all, marks, follows⟩
    · rintro ⟨seeds, marks, follows⟩
      exact ⟨by cases call <;> simp_all, marks, follows⟩

/-- What is reserved in memory is reserved on disk, and what is in the queue is
stored and still `Queued`. -/
structure SyncEngine.Mirrors (crates : Crates) (db : Database)
    (engine : SyncEngine) : Prop where
  reserved : ∀ account, (engine.sequences.lastReserved account).getD 0 =
    (db.sequenceReservations.lookup account).getD 0
  entries : ∀ entry ∈ engine.queue.entries, Stored crates db entry

def Device.Mirrored (crates : Crates) (device : Device) : Prop :=
  ∀ engine, device.engine = some engine → engine.Mirrors crates device.db

theorem Stored.elsewhere {db after : Database} {entry : QueuedTx}
    (stored : Stored crates db entry)
    (record : after.record crates entry.envelope.messageId.toVec =
      db.record crates entry.envelope.messageId.toVec)
    (status : after.statusText entry.envelope.messageId.toVec =
      db.statusText entry.envelope.messageId.toVec) :
    Stored crates after entry := by
  obtain ⟨payment, found, queued, rfl⟩ := stored
  exact ⟨payment, record.trans found, status.trans queued, rfl⟩

/-- A status written for one envelope leaves the entries of all others
stored. -/
theorem Stored.beside {db after : Database} {entry : QueuedTx}
    {written : Bytes32} {next : SettlementStatus}
    (stored : Stored crates db entry)
    (envelopes : after.queuedEnvelopes = db.queuedEnvelopes)
    (status : ∀ key, after.statusText key =
      if key = written.toVec then some next.asStr else db.statusText key)
    (other : entry.envelope.messageId ≠ written) :
    Stored crates after entry := by
  refine stored.elsewhere ?_ ?_
  · rw [Database.record, envelopes, Database.record]
  · rw [status, if_neg (Bytes32.toVec_ne other)]

namespace SyncEngine.Mirrors

variable {db : Database} {engine : SyncEngine}

theorem of_reopened (rebuilt : engine.Reopened crates db) :
    engine.Mirrors crates db where
  reserved := by
    intro account
    rw [rebuilt.sequences]
    rfl
  entries := fun entry member => (rebuilt.entries entry).mp member

theorem ensureSeeded (mirrors : engine.Mirrors crates db) (account : String) :
    SyncEngine.Mirrors crates db { engine with
      sequences := SyncEngine.ensureSeeded engine.sequences account } where
  reserved := by
    intro other
    simp only [lastReserved_ensureSeeded]
    rw [← mirrors.reserved other]
    split
    · rename_i same
      rw [same, Option.getD_some]
    · rfl
  entries := mirrors.entries

theorem seeded (mirrors : engine.Mirrors crates db) (account : String)
    (baseline : Int64) :
    SyncEngine.Mirrors crates (db.replaceReservation account baseline)
      { engine with
        sequences := engine.sequences.seed account baseline } where
  reserved := by
    intro other
    simp only [SequenceReservationManager.lastReserved_seed,
      Database.replaceReservation, HashMap.lookup_insert_ite]
    split
    · rfl
    · exact mirrors.reserved other
  entries := fun entry member => (mirrors.entries entry member).elsewhere rfl rfl

theorem withPayment (mirrors : engine.Mirrors crates db)
    {request : PaymentRequest} {stamp : EnvelopeStamp} {unixNow : UInt64}
    {payment : QueuedEnvelopeRecord} {envelopeBytes : Bytes}
    {taken : SequenceReservationManager}
    (accepts : SyncEngine.Accepts crates engine.sequences request stamp unixNow
      payment envelopeBytes taken)
    (unknown : payment.envelope.messageId ∉ engine.queue.ids) :
    (engine.withPayment payment taken).Mirrors crates
      (SyncEngine.enqueued db payment envelopeBytes) where
  reserved := by
    intro account
    simp only [SyncEngine.withPayment, accepts.lastReserved_taken,
      Database.reservation_enqueued]
    split
    · rfl
    · exact mirrors.reserved account
  entries := by
    intro entry member
    rcases BinaryHeap.mem_push.mp member with rfl | held
    · refine ⟨payment, ?_, ?_, rfl⟩
      · rw [Database.record_enqueued accepts.encoded, if_pos rfl]
      · rw [Database.statusText_enqueued, if_pos rfl]
    · have other : entry.envelope.messageId.toVec ≠
          payment.envelope.messageId.toVec := by
        refine Bytes32.toVec_ne ?_
        intro same
        exact unknown (same ▸ List.mem_map_of_mem held)
      refine (mirrors.entries entry held).elsewhere ?_ ?_
      · rw [Database.record_enqueued accepts.encoded, if_neg other]
      · rw [Database.statusText_enqueued, if_neg other]

end SyncEngine.Mirrors

namespace Device.Mirrored

theorem of_db {db : Database} : Device.Mirrored crates ⟨db, none⟩ := by
  simp [Device.Mirrored]

theorem of_engine {db : Database} {engine : SyncEngine}
    (mirrors : engine.Mirrors crates db) :
    Device.Mirrored crates ⟨db, some engine⟩ := by
  intro other same
  obtain rfl := Option.some_inj.mp same
  exact mirrors

end Device.Mirrored

/-- A payment with a new identifier is not in the queue yet. -/
theorem not_queued_of_fresh {trace : List Label} {db : Database}
    {engine : SyncEngine} {label : Label} {payment : QueuedEnvelopeRecord}
    (fresh : FreshIds crates (trace ++ [label]))
    (sound : Device.Sound crates ⟨db, some engine⟩)
    (recorded : Recorded crates trace db)
    (committed : label.committed crates = some payment) :
    payment.envelope.messageId ∉ engine.queue.ids := by
  intro member
  obtain ⟨entry, queued, same⟩ := List.mem_map.mp member
  have present := (sound.engine engine rfl).stored entry queued
  obtain ⟨earlier, paid, alsoSame⟩ :=
    recorded.payment_of_status sound.intact present
  exact fresh.ne_of_committed committed paid (alsoSame.trans same)

theorem mirrored_of_effect {trace : List Label} {device after : Device}
    {label : Label} (fresh : FreshIds crates (trace ++ [label]))
    (sound : device.Sound crates) (recorded : Recorded crates trace device.db)
    (dispatching : Dispatching (handedOut trace) device)
    (mirrored : device.Mirrored crates) (inStep : KeepsInStep device label)
    (effect : Effect crates device label after) : after.Mirrored crates := by
  cases effect with
  | unchanged silent => exact mirrored
  | stopped silent => exact .of_db
  | opened onFile rebuilt => exact .of_engine (.of_reopened rebuilt)
  | seededInMemory => exact absurd rfl inStep.seeds
  | @seeded db engine survivor account baseline write reply survives =>
      rcases survives with rfl | rfl
      · exact .of_db
      · exact .of_engine ((mirrored engine rfl).seeded account baseline)
  | @rolledBack db engine request stamp unixNow write error =>
      exact .of_engine ((mirrored engine rfl).ensureSeeded _)
  | @paid db engine survivor request stamp unixNow write reply payment
      envelopeBytes taken accepts committed survives =>
      rcases survives with rfl | rfl
      · exact .of_db
      · exact .of_engine ((mirrored engine rfl).withPayment accepts
          (not_queued_of_fresh fresh sound recorded committed))
  | @dispatched db engine head rest unixNow popped =>
      have mirrors := mirrored engine rfl
      have absent := (List.nodup_cons.mp ((ids_of_pop popped).nodup_iff.mp
        (dispatching.distinct engine rfl))).1
      refine .of_engine ⟨mirrors.reserved, ?_⟩
      intro entry member
      refine (mirrors.entries entry
        (BinaryHeap.mem_of_mem_rest popped member)).beside rfl
          (fun key => db.statusText_replaceStatus _ key _ _) ?_
      intro same
      exact absent (same ▸ List.mem_map_of_mem member)
  | dispatchCut popped => exact .of_db
  | @marked db after engine survivor messageId current next updatedAt writes
      reply held legal envelopes reservations status survives =>
      rcases survives with rfl | ⟨replaced, ⟨appended, rfl⟩ | ⟨appended, rfl⟩⟩
      · exact .of_db
      · have mirrors := mirrored engine rfl
        have outside : messageId ∉ engine.queue.ids :=
          inStep.marks replaced appended engine rfl (by simp [held, legal])
        refine .of_engine ⟨?_, ?_⟩
        · rw [reservations]
          exact mirrors.reserved
        · intro entry member
          refine (mirrors.entries entry member).beside envelopes status ?_
          intro same
          exact outside (same ▸ List.mem_map_of_mem member)
      · have illegal := inStep.follows replaced appended engine rfl
        simp [held, legal] at illegal

/-- An engine that mirrors its file matches the one that `open` builds from
it. -/
theorem SyncEngine.Mirrors.matches {db : Database}
    {engine reopened : SyncEngine} (mirrors : engine.Mirrors crates db)
    (sound : engine.Sound crates db) (distinct : engine.queue.ids.Nodup)
    (agrees : Device.Agrees ⟨db, some engine⟩)
    (onFile : reopened.dispatchConn = .file)
    (rebuilt : reopened.Reopened crates db) : engine.Matches reopened where
  unguarded := ⟨sound.unguarded, rebuilt.unguarded⟩
  onFile := ⟨sound.onFile, onFile⟩
  reserved := by
    intro account
    rw [mirrors.reserved, rebuilt.sequences]
    rfl
  status := by
    intro messageId
    refine Option.map_injective (fun _ _ => SettlementStatus.asStr_injective) ?_
    rw [agrees engine rfl messageId, rebuilt.status messageId]
  entries := by
    refine (List.perm_ext_iff_of_nodup (List.Nodup.of_map _ distinct)
      (List.Nodup.of_map _ rebuilt.distinct)).mpr ?_
    intro entry
    rw [rebuilt.entries entry]
    refine ⟨mirrors.entries entry, ?_⟩
    rintro ⟨record, found, queued, rfl⟩
    exact sound.complete record found queued

/-- After a run in which memory was kept in step with the file, the engine can
be replaced at any moment by the one that `open` builds from the file: as long
as no dispatch has to choose among equally urgent payments, all further calls
answer the same and leave the same on disk, whatever fails and wherever a crash
cuts them off. -/
theorem restart_unnoticed {trace : List Label} {device : Device}
    (run : (fileEngine crates file).RunUnder
      (fun _ device label => KeepsInStep device label) trace device)
    (fresh : FreshIds crates trace) {engine : SyncEngine}
    (alive : device.engine = some engine) {scans : Scans}
    (enumerate : scans.Enumerate device.db) :
    ∃ reopened,
      SyncEngine.openPath crates file.path scans .served device.db =
        .ok reopened ∧
      ∀ calls, Machine.Always (Device.after crates file) Device.Untied device
          calls →
        device.shown crates file calls =
          Device.shown crates file ⟨device.db, some reopened⟩ calls := by
  have sound := run_sound run
  have agrees := run_invariant (fun _ device => device.Agrees) .of_db
    (fun _ _ _ _ prior agrees inStep effect =>
      agrees_of_effect (run_sound prior) agrees inStep.follows effect) run
  have mirrored := run_invariant (fun trace device => FreshIds crates trace →
      device.Mirrored crates) (fun _ => .of_db)
    (fun _ _ _ _ prior mirrored inStep effect fresh =>
      mirrored_of_effect fresh (run_sound prior) (run_recorded prior)
        (run_dispatching prior fresh.of_snoc) (mirrored fresh.of_snoc) inStep
        effect) run fresh
  obtain ⟨reopened, opened, onFile, rebuilt⟩ :=
    SyncEngine.openPath_ok sound.intact file.path enumerate
  rw [openDispatchConnection_path] at onFile
  refine ⟨reopened, opened, fun calls untied => ?_⟩
  obtain ⟨db, alive'⟩ := device
  obtain rfl := alive
  have matching := (mirrored engine rfl).matches (sound.engine engine rfl)
    ((run_dispatching run fresh).distinct engine rfl) agrees onFile rebuilt
  have matched : ∀ first second call, Device.Matches first second →
      first.Untied call →
      first.shows crates file call = second.shows crates file call ∧
        (first.after crates file call).Matches
          (second.after crates file call) :=
    fun _ _ _ devices untied => devices.step untied
  exact Machine.answers_eq_of_matched matched (.running db matching) untied

/-- Three payments, one of them handed out before the restart and two after. -/
theorem restart_unnoticed_two :
    ∃ (device : Device) (reopened : SyncEngine),
      device.engine.isSome = true ∧
      device.shown Sample.crates Sample.file
          [.nextToDispatch 1004 .applied, .nextToDispatch 1005 .applied] =
        Device.shown Sample.crates Sample.file ⟨device.db, some reopened⟩
          [.nextToDispatch 1004 .applied, .nextToDispatch 1005 .applied] := by
  let scans : Scans := ⟨⟨[⟨Sample.account, 3⟩], List.nodupKeys_singleton _⟩,
    ⟨[Sample.row 3 1002, Sample.row 1 1000, Sample.row 2 1001], by
      unfold List.NodupKeys
      decide +kernel⟩⟩
  obtain ⟨trace, device, run, fresh, isRunning, enumerate, untied,
      alsoUntied⟩ := exists_run Sample.crates Sample.file
    (fun _ device label => KeepsInStep device label)
    (fun trace device => FreshIds Sample.crates trace ∧
      device.engine.isSome = true ∧
      (Call.openPath scans .served).Admissible device ∧
      device.Untied (.nextToDispatch 1004 .applied) ∧
      (device.after Sample.crates Sample.file
        (.nextToDispatch 1004 .applied)).Untied
          (.nextToDispatch 1005 .applied))
    [Sample.openEmpty,
      .queuePayment (Sample.request "AQ") (Sample.stamp 1) 1000 .applied,
      .queuePayment (Sample.request "Ag") (Sample.stamp 2) 1001 .applied,
      .queuePayment (Sample.request "Aw") (Sample.stamp 3) 1002 .applied,
      .nextToDispatch 1003 .applied]
    (by decide +kernel)
  obtain ⟨engine, alive⟩ := Option.isSome_iff_exists.mp isRunning
  obtain ⟨reopened, _, unnoticed⟩ :=
    restart_unnoticed run fresh alive enumerate
  refine ⟨device, reopened, isRunning, unnoticed _ ?_⟩
  rw [Machine.always_cons, Machine.always_cons]
  exact ⟨untied, alsoUntied, Machine.always_nil _⟩

end StellarConduit
