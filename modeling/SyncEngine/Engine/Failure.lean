import SyncEngine.Engine.Replay
import SyncEngine.Engine.Sound

namespace StellarConduit

open Data

/-! What calls leave behind that answer with an error. -/

variable {crates : Crates} {file : DatabaseFile}

def Label.failed (label : Label) : Bool :=
  match label.reply with
  | .seeded (.error _) => true
  | .queued (.error _) => true
  | .marked (.error _) => true
  | .dispatched none => true
  | _ => false

/-- The call has changed nothing by the time it can fail: a refused seeding
repeats what both maps hold, a rejected payment finds its account seeded, and a
row whose history entry is refused says already what is written. -/
def FailsCleanly (crates : Crates) (device : Device) (label : Label) : Prop :=
  match label.call with
  | .seedAccount account baseline write =>
      write = .refused → ∀ engine ∈ device.engine,
        engine.sequences.baseline.lookup account = some baseline ∧
          engine.sequences.reserved.lookup account = some baseline
  | .queuePayment request stamp unixNow write =>
      ∀ engine ∈ device.engine,
        engine.sequences.lastReserved request.sourceAccount = none →
          write ≠ .refused ∧
            ∃ payment ∈ request.payment crates stamp unixNow,
              SyncEngine.Acceptable crates engine.sequences request stamp
                unixNow payment
  | .markSettlement messageId next updatedAt writes =>
      writes.replace = .applied → writes.append = .refused →
        ∀ engine ∈ device.engine,
          (engine.settlement.status messageId).any
              (fun current => current.canTransitionTo next) = true →
            device.db.settlementStatus.lookup messageId.toVec =
              some ⟨next.asStr, updatedAt.toInt64⟩
  | _ => True

instance (crates : Crates) (device : Device) (label : Label) :
    Decidable (FailsCleanly crates device label) :=
  match label with
  | ⟨.seedAccount account baseline write, _⟩ =>
      inferInstanceAs (Decidable (write = .refused →
        ∀ engine ∈ device.engine,
          engine.sequences.baseline.lookup account = some baseline ∧
            engine.sequences.reserved.lookup account = some baseline))
  | ⟨.queuePayment request stamp unixNow write, _⟩ =>
      inferInstanceAs (Decidable (∀ engine ∈ device.engine,
        engine.sequences.lastReserved request.sourceAccount = none →
          write ≠ .refused ∧
            ∃ payment ∈ request.payment crates stamp unixNow,
              SyncEngine.Acceptable crates engine.sequences request stamp
                unixNow payment))
  | ⟨.markSettlement messageId next updatedAt writes, _⟩ =>
      inferInstanceAs (Decidable (writes.replace = .applied →
        writes.append = .refused → ∀ engine ∈ device.engine,
          (engine.settlement.status messageId).any
              (fun current => current.canTransitionTo next) = true →
            device.db.settlementStatus.lookup messageId.toVec =
              some ⟨next.asStr, updatedAt.toInt64⟩))
  | ⟨.openPath _ _, _⟩ => .isTrue trivial
  | ⟨.drop, _⟩ => .isTrue trivial
  | ⟨.nextToDispatch _ _, _⟩ => .isTrue trivial

theorem SyncEngine.ensureSeeded_eq_self_iff
    {sequences : SequenceReservationManager} {account : String} :
    ensureSeeded sequences account = sequences ↔
      sequences.lastReserved account ≠ none := by
  rw [ensureSeeded]
  split
  · rename_i missing
    rw [SequenceReservationManager.seed_eq_self_iff]
    have absent : sequences.reserved.lookup account = none := missing
    simp [absent, missing]
  · rename_i present
    simp [present]

theorem Database.replaceStatus_eq_self_iff {db : Database} {messageId : Bytes}
    {status : SettlementStatus} {updatedAt : UInt64} :
    db.replaceStatus messageId status updatedAt = db ↔
      db.settlementStatus.lookup messageId =
        some ⟨status.asStr, updatedAt.toInt64⟩ := by
  obtain ⟨envelopes, statuses, reservations, history⟩ := db
  simp [replaceStatus, HashMap.insert_eq_self_iff]

section

variable {db : Database} {engine : SyncEngine} {reply : Reply}
  {after : Device}

theorem seedAccount_failure_iff {account : String} {baseline : Int64}
    {write : Write}
    (settled : Device.settle
      (engine.seedAccount account baseline write db) .seeded =
        (reply, after)) :
    (Label.failed ⟨.seedAccount account baseline write, reply⟩ = true →
        after = ⟨db, some engine⟩) ↔
      FailsCleanly crates ⟨db, some engine⟩
        ⟨.seedAccount account baseline write, reply⟩ := by
  rw [SyncEngine.seedAccount_cases] at settled
  have seeded : ({ engine with
      sequences := engine.sequences.seed account baseline } : SyncEngine) =
        engine ↔
      engine.sequences.baseline.lookup account = some baseline ∧
        engine.sequences.reserved.lookup account = some baseline := by
    rw [← SequenceReservationManager.seed_eq_self_iff]
    obtain ⟨queue, sequences, settlement, dispatchConn⟩ := engine
    simp
  cases write <;> obtain ⟨rfl, rfl⟩ := Prod.mk.inj settled <;>
    simp [Label.failed, FailsCleanly, seeded]

theorem queuePayment_failure_iff
    (unguarded : engine.queue.emergencyGuard = none)
    {request : PaymentRequest} {stamp : EnvelopeStamp} {unixNow : UInt64}
    {write : Write}
    (settled : Device.settle
      (engine.queuePayment crates request stamp unixNow write db) .queued =
        (reply, after)) :
    (Label.failed ⟨.queuePayment request stamp unixNow write, reply⟩ = true →
        after = ⟨db, some engine⟩) ↔
      FailsCleanly crates ⟨db, some engine⟩
        ⟨.queuePayment request stamp unixNow write, reply⟩ := by
  have seeded : ({ engine with
      sequences := SyncEngine.ensureSeeded engine.sequences
        request.sourceAccount } : SyncEngine) = engine ↔
      engine.sequences.lastReserved request.sourceAccount ≠ none := by
    rw [← SyncEngine.ensureSeeded_eq_self_iff]
    obtain ⟨queue, sequences, settlement, dispatchConn⟩ := engine
    simp
  rcases SyncEngine.queuePayment_cases crates unguarded request stamp unixNow
      write db with
    ⟨rejects, error, outcome⟩ |
      ⟨payment, envelopeBytes, taken, accepts, outcome⟩
  · rw [outcome] at settled
    obtain ⟨rfl, rfl⟩ := Prod.mk.inj settled
    simp [Label.failed, FailsCleanly, seeded, rejects]
  · have acceptable : SyncEngine.Acceptable crates engine.sequences request
        stamp unixNow payment := ⟨envelopeBytes, taken, accepts⟩
    rw [outcome] at settled
    cases write <;> obtain ⟨rfl, rfl⟩ := Prod.mk.inj settled <;>
      simp [Label.failed, FailsCleanly, seeded, accepts.payment_eq,
        acceptable]

theorem nextToDispatch_failure {unixNow : UInt64} {write : Write}
    (onFile : engine.dispatchConn = .file)
    (settled : Device.settle
      (engine.nextToDispatch unixNow write db) .dispatched = (reply, after))
    (failed : Label.failed ⟨.nextToDispatch unixNow write, reply⟩ = true) :
    after = ⟨db, some engine⟩ := by
  rcases SyncEngine.nextToDispatch_cases onFile unixNow write db with
    ⟨_, outcome⟩ | ⟨head, rest, popped, outcome⟩
  · rw [outcome] at settled
    obtain ⟨rfl, rfl⟩ := Prod.mk.inj settled
    rfl
  · rw [outcome] at settled
    cases write <;> obtain ⟨rfl, rfl⟩ := Prod.mk.inj settled
    · simp [Label.failed] at failed
    · rfl
    · simp [Label.failed] at failed
    · simp [Label.failed] at failed

theorem markSettlement_failure_iff {messageId : Bytes32}
    {next : SettlementStatus} {updatedAt : UInt64} {writes : StatusWrites}
    (settled : Device.settle
      (engine.markSettlement messageId next updatedAt writes db) .marked =
        (reply, after)) :
    (Label.failed ⟨.markSettlement messageId next updatedAt writes, reply⟩ =
        true → after = ⟨db, some engine⟩) ↔
      FailsCleanly crates ⟨db, some engine⟩
        ⟨.markSettlement messageId next updatedAt writes, reply⟩ := by
  rcases SyncEngine.markSettlement_cases engine messageId next updatedAt
      writes db with ⟨illegal, error, outcome⟩ | ⟨current, held, legal, outcome⟩
  · rw [outcome] at settled
    obtain ⟨rfl, rfl⟩ := Prod.mk.inj settled
    have rejected : (engine.settlement.status messageId).any
        (fun current => current.canTransitionTo next) = false := by
      simpa [Option.any_eq_false] using illegal
    simp [FailsCleanly, rejected]
  · rw [outcome] at settled
    obtain ⟨select, replace, append⟩ := writes
    cases replace <;> cases append <;>
      obtain ⟨rfl, rfl⟩ := Prod.mk.inj settled <;>
      simp [Label.failed, FailsCleanly, held, legal,
        Database.replaceStatus_eq_self_iff]

end

/-- A failing call of a reachable engine changes nothing exactly if it meets the
condition. -/
theorem failed_call_changes_nothing_iff {trace : List Label}
    {device after : Device} {label : Label}
    (run : (fileEngine crates file).Run trace device)
    (stepped : (fileEngine crates file).step device label after) :
    (label.failed = true → after = device) ↔
      FailsCleanly crates device label := by
  have sound := run_sound run
  obtain ⟨db, alive⟩ := device
  obtain ⟨call, reply⟩ := label
  obtain ⟨_, performed⟩ := stepped
  cases alive with
  | none =>
      cases call with
      | openPath scans read =>
          simp only [Device.perform] at performed
          split at performed <;>
            obtain ⟨rfl, rfl⟩ := Prod.mk.inj (Option.some_inj.mp performed) <;>
            simp [Label.failed, FailsCleanly]
      | _ => simp [Device.perform] at performed
  | some engine =>
      have engineSound := sound.engine engine rfl
      cases call with
      | openPath scans read => simp [Device.perform] at performed
      | drop =>
          simp only [Device.perform, Option.some.injEq, Prod.mk.injEq]
            at performed
          obtain ⟨rfl, rfl⟩ := performed
          simp [Label.failed, FailsCleanly]
      | seedAccount account baseline write =>
          exact seedAccount_failure_iff (Option.some_inj.mp performed)
      | queuePayment request stamp unixNow write =>
          exact queuePayment_failure_iff engineSound.unguarded
            (Option.some_inj.mp performed)
      | nextToDispatch unixNow write =>
          exact iff_of_true (nextToDispatch_failure engineSound.onFile
            (Option.some_inj.mp performed)) trivial
      | markSettlement messageId next updatedAt writes =>
          exact markSettlement_failure_iff (Option.some_inj.mp performed)

/-- A payment with a wrong number leaves the fallback baseline of its account
behind. -/
theorem failed_call_changes_something :
    ∃ (trace : List Label) (device : Device) (label : Label) (after : Device),
      (fileEngine Sample.crates Sample.file).Run trace device ∧
        (fileEngine Sample.crates Sample.file).step device label after ∧
        label.failed = true ∧ after ≠ device := by
  obtain ⟨trace, device, label, after, run, stepped, failed, engine, alive,
      unseeded, later, aliveLater, seeded⟩ :=
    exists_step Sample.crates Sample.file (fun _ _ _ => True)
      (fun _ device label after => label.failed = true ∧
        ∃ engine ∈ device.engine,
          engine.sequences.lastReserved Sample.account = none ∧
          ∃ later ∈ after.engine,
            later.sequences.lastReserved Sample.account = some 0)
      [Sample.openEmpty]
      (.queuePayment (Sample.request "Ag") (Sample.stamp 2) 1000 .applied)
      (by decide +kernel)
  refine ⟨trace, device, label, after, run, stepped, failed, ?_⟩
  rintro rfl
  obtain rfl := Option.mem_unique alive aliveLater
  rw [unseeded] at seeded
  simp at seeded

/-- The same payment for an account that has been seeded. -/
theorem failed_call_changes_nothing_seeded :
    ∃ (device after : Device) (label : Label),
      device.engine.isSome = true ∧ label.failed = true ∧ after = device := by
  obtain ⟨trace, device, label, after, run, stepped, failed, alive, clean⟩ :=
    exists_step Sample.crates Sample.file (fun _ _ _ => True)
      (fun _ device label _ => label.failed = true ∧
        device.engine.isSome = true ∧
        FailsCleanly Sample.crates device label)
      [Sample.openEmpty, .seedAccount Sample.account 0 .applied]
      (.queuePayment (Sample.request "Ag") (Sample.stamp 2) 1000 .applied)
      (by decide +kernel)
  exact ⟨device, after, label, alive, failed,
    (failed_call_changes_nothing_iff run stepped).mpr clean failed⟩

end StellarConduit
