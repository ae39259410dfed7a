import SyncEngine.Data.Int64
import SyncEngine.Engine.Replay
import SyncEngine.Engine.Sound

namespace StellarConduit

open Data

/-! Which sequence numbers the payments of an account take. -/

variable {crates : Crates} {file : DatabaseFile}

/-- Storage and, if there is an engine, memory have `sequence` as the last one
reserved for `account`. -/
structure Device.Reserved (device : Device) (account : String)
    (sequence : Int64) : Prop where
  stored : device.db.sequenceReservations.lookup account = some sequence
  inMemory : ∀ engine, device.engine = some engine →
    engine.sequences.lastReserved account = some sequence

theorem SequenceReservationManager.lastReserved_reserveNext
    {manager taken : SequenceReservationManager} {account other : String}
    {sequence : Int64}
    (reserved : manager.reserveNext account = .ok (sequence, taken)) :
    taken.lastReserved other =
      if other = account then some sequence
      else manager.lastReserved other := by
  cases held : manager.lastReserved account with
  | none =>
      have missing : manager.reserved.lookup account = none := held
      simp [reserveNext, missing] at reserved
  | some last =>
      rw [reserveNext_of_reserved held] at reserved
      obtain ⟨rfl, rfl⟩ := Prod.mk.inj (Except.ok.inj reserved)
      exact HashMap.lookup_insert_ite _ _ _ _

namespace SyncEngine

theorem lastReserved_ensureSeeded (sequences : SequenceReservationManager)
    (account other : String) :
    (ensureSeeded sequences account).lastReserved other =
      if other = account then some ((sequences.lastReserved account).getD 0)
      else sequences.lastReserved other := by
  unfold ensureSeeded
  cases held : sequences.lastReserved account with
  | none => simp [SequenceReservationManager.lastReserved_seed]
  | some last =>
      by_cases same : other = account
      · simp [same, held]
      · simp [same]

variable {sequences taken : SequenceReservationManager}
  {request : PaymentRequest} {stamp : EnvelopeStamp} {unixNow : UInt64}
  {payment : QueuedEnvelopeRecord} {envelopeBytes : Bytes}

/-- A payment takes the number after the last one reserved for its account,
which is 0 if there is none. -/
theorem Accepts.sequence_eq (accepts : Accepts crates sequences request stamp
      unixNow payment envelopeBytes taken) :
    payment.sequence =
      (sequences.lastReserved payment.sourceAccount).getD 0 + 1 := by
  have held := lastReserved_ensureSeeded sequences request.sourceAccount
    request.sourceAccount
  rw [if_pos rfl] at held
  have reserved := accepts.reserved
  rw [SequenceReservationManager.reserveNext_of_reserved held] at reserved
  rw [accepts.sourceAccount]
  exact (Prod.mk.inj (Except.ok.inj reserved)).1.symm

theorem Accepts.lastReserved_taken (accepts : Accepts crates sequences request
      stamp unixNow payment envelopeBytes taken) (account : String) :
    taken.lastReserved account =
      if account = payment.sourceAccount then some payment.sequence
      else sequences.lastReserved account := by
  rw [SequenceReservationManager.lastReserved_reserveNext accepts.reserved,
    accepts.sourceAccount]
  split
  · rfl
  · rename_i other
    rw [lastReserved_ensureSeeded, if_neg other]

end SyncEngine

/-- The call seeds `account`, successfully or not. -/
def Label.Seeds (account : String) (label : Label) : Prop :=
  match label.call with
  | .seedAccount other _ _ => other = account
  | _ => False

instance (account : String) (label : Label) :
    Decidable (label.Seeds account) :=
  match label with
  | ⟨.seedAccount other _ _, _⟩ => inferInstanceAs (Decidable (other = account))
  | ⟨.openPath _ _, _⟩ => .isFalse id
  | ⟨.drop, _⟩ => .isFalse id
  | ⟨.queuePayment _ _ _ _, _⟩ => .isFalse id
  | ⟨.nextToDispatch _ _, _⟩ => .isFalse id
  | ⟨.markSettlement _ _ _ _, _⟩ => .isFalse id

/-- The call neither seeds `account` nor stores a payment of it. -/
structure Label.Quiet (crates : Crates) (account : String) (label : Label) :
    Prop where
  notPaid : ∀ payment, label.committed crates = some payment →
    payment.sourceAccount ≠ account
  notSeeded : ¬ label.Seeds account

theorem reserved_of_survives {db : Database} {engine : SyncEngine}
    {survivor : Option SyncEngine} {account : String} {sequence : Int64}
    (survives : Survives survivor engine)
    (stored : db.sequenceReservations.lookup account = some sequence)
    (inMemory : engine.sequences.lastReserved account = some sequence) :
    Device.Reserved ⟨db, survivor⟩ account sequence := by
  refine ⟨stored, ?_⟩
  intro other same
  rcases survives with rfl | rfl
  · simp at same
  · obtain rfl := Option.some_inj.mp same
    exact inMemory

/-- A payment leaves its own number reserved, also if the call is cut off. -/
theorem reserved_of_committed {device after : Device} {label : Label}
    {payment : QueuedEnvelopeRecord}
    (effect : Effect crates device label after)
    (commits : label.committed crates = some payment) :
    after.Reserved payment.sourceAccount payment.sequence := by
  cases effect with
  | unchanged silent => simp [silent.committed] at commits
  | stopped silent => simp [silent.committed] at commits
  | paid accepts committed survives =>
      obtain rfl := Option.some_inj.mp (committed.symm.trans commits)
      refine reserved_of_survives survives ?_ ?_
      · rw [Database.reservation_enqueued, if_pos rfl]
      · exact (accepts.lastReserved_taken _).trans (if_pos rfl)
  | _ => simp [Label.committed] at commits

theorem reserved_of_quiet {device after : Device} {label : Label}
    {account : String} {sequence : Int64}
    (effect : Effect crates device label after)
    (quiet : label.Quiet crates account)
    (reserved : device.Reserved account sequence) :
    after.Reserved account sequence := by
  obtain ⟨stored, inMemory⟩ := reserved
  cases effect with
  | unchanged silent => exact ⟨stored, inMemory⟩
  | stopped silent => exact ⟨stored, by simp⟩
  | opened onFile rebuilt =>
      refine reserved_of_survives (.inr rfl) stored ?_
      rw [rebuilt.sequences]
      exact stored
  | @seededInMemory db engine other baseline reply =>
      have different : account ≠ other := fun same =>
        quiet.notSeeded same.symm
      refine reserved_of_survives (.inr rfl) stored ?_
      rw [SequenceReservationManager.lastReserved_seed, if_neg different]
      exact inMemory _ rfl
  | @seeded db engine survivor other baseline write reply survives =>
      have different : account ≠ other := fun same =>
        quiet.notSeeded same.symm
      refine reserved_of_survives survives ?_ ?_
      · rw [Database.replaceReservation, HashMap.lookup_insert_ite,
          if_neg different]
        exact stored
      · rw [SequenceReservationManager.lastReserved_seed, if_neg different]
        exact inMemory _ rfl
  | rolledBack =>
      refine reserved_of_survives (.inr rfl) stored ?_
      rw [SyncEngine.lastReserved_ensureSeeded]
      split
      · rename_i same
        rw [← same, inMemory _ rfl]
        rfl
      · exact inMemory _ rfl
  | paid accepts committed survives =>
      have different := (quiet.notPaid _ committed).symm
      refine reserved_of_survives survives ?_ ?_
      · rw [Database.reservation_enqueued, if_neg different]
        exact stored
      · exact ((accepts.lastReserved_taken _).trans (if_neg different)).trans
          (inMemory _ rfl)
  | @dispatched db engine head rest unixNow popped =>
      exact reserved_of_survives (.inr rfl) stored (inMemory engine rfl)
  | dispatchCut popped => exact ⟨stored, by simp⟩
  | @marked db after engine survivor messageId current next updatedAt writes
      reply held legal envelopes reservations status survives =>
      have storedAfter := (congrArg (Finmap.lookup account)
        reservations).trans stored
      rcases survives with rfl | ⟨_, ⟨_, rfl⟩ | ⟨_, rfl⟩⟩
      · exact ⟨storedAfter, by simp⟩
      · exact reserved_of_survives (.inr rfl) storedAfter (inMemory engine rfl)
      · exact reserved_of_survives (.inr rfl) storedAfter (inMemory engine rfl)

/-- A payment takes the number after the one that is reserved. -/
theorem sequence_of_reserved {device after : Device} {label : Label}
    {payment : QueuedEnvelopeRecord} {sequence : Int64}
    (effect : Effect crates device label after)
    (commits : label.committed crates = some payment)
    (reserved : device.Reserved payment.sourceAccount sequence) :
    payment.sequence = sequence + 1 := by
  cases effect with
  | unchanged silent => simp [silent.committed] at commits
  | stopped silent => simp [silent.committed] at commits
  | paid accepts committed survives =>
      obtain rfl := Option.some_inj.mp (committed.symm.trans commits)
      rw [accepts.sequence_eq, reserved.inMemory _ rfl]
      rfl
  | _ => simp [Label.committed] at commits

/-- Two payments of an account between which no other payment of it is stored
and it is not seeded take consecutive numbers, whatever else happens in
between. -/
theorem sequence_gap_free {trace : List Label} {device : Device}
    (run : (fileEngine crates file).Run trace device)
    {before between after : List Label} {first second : Label}
    (split : trace = before ++ first :: (between ++ second :: after))
    {earlier later : QueuedEnvelopeRecord}
    (firstCommits : first.committed crates = some earlier)
    (secondCommits : second.committed crates = some later)
    (sameAccount : later.sourceAccount = earlier.sourceAccount)
    (quiet : ∀ label ∈ between, label.Quiet crates earlier.sourceAccount)
    (below : earlier.sequence ≠ Int64.maxValue) :
    later.sequence.toInt = earlier.sequence.toInt + 1 := by
  have regrouped : trace = (before ++ first :: between) ++ second :: after := by
    simpa using split
  obtain ⟨reached, next, prior, stepped, _⟩ := run.at_label regrouped
  have reserved : reached.Reserved earlier.sourceAccount earlier.sequence := by
    refine prior.since (fun label => label = first)
      (fun label => label.Quiet crates earlier.sourceAccount)
      (fun device => device.Reserved earlier.sourceAccount earlier.sequence)
      ?_ ?_ rfl rfl quiet
    · rintro _ _ _ _ run stepped rfl
      exact reserved_of_committed (step_effect (run_sound run) stepped)
        firstCommits
    · intro _ _ _ _ run stepped silent holds
      exact reserved_of_quiet (step_effect (run_sound run) stepped) silent
        holds
  have taken := sequence_of_reserved
    (step_effect (run_sound prior) stepped) secondCommits
    (sameAccount ▸ reserved)
  rw [taken, toInt_add_one below]

/-- Two payments around a call that claims a number already taken. -/
theorem sequence_gap_free_failing :
    ∃ earlier later : QueuedEnvelopeRecord, earlier.sequence = 1 ∧
      later.sequence.toInt = earlier.sequence.toInt + 1 := by
  obtain ⟨trace, device, run, numbers⟩ := exists_run Sample.crates Sample.file
    (fun _ _ _ => True)
    (fun trace _ => (trace.map fun label =>
        ((label.committed Sample.crates).map fun payment =>
          (payment.sourceAccount, payment.sequence),
        decide (label.Seeds Sample.account))) =
      [(none, false), (some (Sample.account, 1), false), (none, false),
        (some (Sample.account, 2), false)])
    [Sample.openEmpty,
      .queuePayment (Sample.request "AQ") (Sample.stamp 1) 1000 .applied,
      .queuePayment (Sample.request "AQ") (Sample.stamp 5) 1001 .applied,
      .queuePayment (Sample.request "Ag") (Sample.stamp 2) 1002 .applied]
    (by decide +kernel)
  obtain ⟨opening, _, rfl, _, numbers⟩ := List.map_eq_cons_iff.mp numbers
  obtain ⟨first, _, rfl, paid, numbers⟩ := List.map_eq_cons_iff.mp numbers
  obtain ⟨failing, _, rfl, failed, numbers⟩ := List.map_eq_cons_iff.mp numbers
  obtain ⟨second, _, rfl, paidNext, numbers⟩ := List.map_eq_cons_iff.mp numbers
  obtain rfl := List.map_eq_nil_iff.mp numbers
  obtain ⟨earlier, firstCommits, one⟩ :=
    Option.map_eq_some_iff.mp (Prod.mk.inj paid).1
  obtain ⟨later, secondCommits, two⟩ :=
    Option.map_eq_some_iff.mp (Prod.mk.inj paidNext).1
  obtain ⟨account, sequence⟩ := Prod.mk.inj one
  have quiet : ∀ label ∈ [failing],
      label.Quiet Sample.crates earlier.sourceAccount := by
    intro label member
    obtain rfl := List.mem_singleton.mp member
    have uncommitted := Option.map_eq_none_iff.mp (Prod.mk.inj failed).1
    refine ⟨by simp [uncommitted], ?_⟩
    rw [account]
    exact of_decide_eq_false (Prod.mk.inj failed).2
  have split : [opening, first, failing, second] =
      [opening] ++ first :: ([failing] ++ second :: []) := rfl
  exact ⟨earlier, later, sequence, sequence_gap_free run split firstCommits
    secondCommits ((Prod.mk.inj two).1.trans account.symm) quiet
    (by rw [sequence]; decide)⟩

/-! A baseline below a number that is already taken makes the account take it
again. -/

/-- A step that does not wind a reservation back: unless it is cut off before
its write, a seeding is at or above every number taken for the account, and no
payment is stored after the largest number. -/
def NoRewind (crates : Crates) (trace : List Label) (device : Device)
    (label : Label) : Prop :=
  match label.call with
  | .seedAccount account baseline write =>
      write ≠ .lostBefore → ∀ payment ∈ payments crates trace,
        payment.sourceAccount = account → payment.sequence ≤ baseline
  | .queuePayment _ _ _ _ =>
      ∀ engine ∈ device.engine, ∀ payment ∈ label.call.stores crates device,
        engine.sequences.lastReserved payment.sourceAccount ≠
          some Int64.maxValue
  | _ => True

instance (crates : Crates) (trace : List Label) (device : Device)
    (label : Label) : Decidable (NoRewind crates trace device label) :=
  match label with
  | ⟨.seedAccount account baseline write, _⟩ =>
      inferInstanceAs (Decidable (write ≠ .lostBefore →
        ∀ payment ∈ payments crates trace,
          payment.sourceAccount = account → payment.sequence ≤ baseline))
  | ⟨.queuePayment request stamp unixNow write, _⟩ =>
      inferInstanceAs (Decidable (∀ engine ∈ device.engine,
        ∀ payment ∈ (Call.queuePayment request stamp unixNow write).stores
            crates device,
          engine.sequences.lastReserved payment.sourceAccount ≠
            some Int64.maxValue))
  | ⟨.openPath _ _, _⟩ => .isTrue trivial
  | ⟨.drop, _⟩ => .isTrue trivial
  | ⟨.nextToDispatch _ _, _⟩ => .isTrue trivial
  | ⟨.markSettlement _ _ _ _, _⟩ => .isTrue trivial

def Covers (last : Option Int64) (payment : QueuedEnvelopeRecord) : Prop :=
  ∃ sequence, last = some sequence ∧ payment.sequence ≤ sequence

/-- No payment has a number above its account's last reservation. -/
structure Device.Covered (crates : Crates) (trace : List Label)
    (device : Device) : Prop where
  stored : ∀ payment ∈ payments crates trace,
    Covers (device.db.sequenceReservations.lookup payment.sourceAccount)
      payment
  inMemory : ∀ engine, device.engine = some engine →
    ∀ payment ∈ payments crates trace,
      Covers (engine.sequences.lastReserved payment.sourceAccount) payment

theorem Device.Covered.lt_sequence {trace : List Label} {device : Device}
    {engine : SyncEngine} {request : PaymentRequest} {stamp : EnvelopeStamp}
    {unixNow : UInt64} {payment earlier : QueuedEnvelopeRecord}
    {envelopeBytes : Bytes} {taken : SequenceReservationManager}
    (covered : device.Covered crates trace)
    (alive : device.engine = some engine)
    (accepts : SyncEngine.Accepts crates engine.sequences request stamp unixNow
      payment envelopeBytes taken)
    (room : engine.sequences.lastReserved payment.sourceAccount ≠
      some Int64.maxValue)
    (member : earlier ∈ payments crates trace)
    (sameAccount : earlier.sourceAccount = payment.sourceAccount) :
    earlier.sequence < payment.sequence := by
  obtain ⟨last, held, bounded⟩ := covered.inMemory engine alive earlier member
  rw [sameAccount] at held
  rw [held] at room
  have below : last ≠ Int64.maxValue := fun same => room (congrArg some same)
  rw [accepts.sequence_eq, held, Option.getD_some]
  exact Int64.lt_of_le_of_lt bounded (lt_add_one below)

theorem covers_update {old next : String → Option Int64} {account : String}
    {value : Int64} {list : List QueuedEnvelopeRecord}
    (covered : ∀ payment ∈ list, Covers (old payment.sourceAccount) payment)
    (bounded : ∀ payment ∈ list, payment.sourceAccount = account →
      payment.sequence ≤ value)
    (updated : ∀ other, next other =
      if other = account then some value else old other) :
    ∀ payment ∈ list, Covers (next payment.sourceAccount) payment := by
  intro payment member
  rw [updated]
  split
  · rename_i same
    exact ⟨value, rfl, bounded payment member same⟩
  · exact covered payment member

theorem covers_snoc {next : String → Option Int64}
    {payment : QueuedEnvelopeRecord} {list : List QueuedEnvelopeRecord}
    (covered : ∀ earlier ∈ list, Covers (next earlier.sourceAccount) earlier)
    (newest : next payment.sourceAccount = some payment.sequence) :
    ∀ earlier ∈ list ++ [payment],
      Covers (next earlier.sourceAccount) earlier := by
  rw [List.forall_mem_append, List.forall_mem_singleton]
  exact ⟨covered, payment.sequence, newest, Int64.le_refl _⟩

theorem covered_of_survives {trace : List Label} {db : Database}
    {engine : SyncEngine} {survivor : Option SyncEngine}
    (survives : Survives survivor engine)
    (stored : ∀ payment ∈ payments crates trace,
      Covers (db.sequenceReservations.lookup payment.sourceAccount) payment)
    (inMemory : ∀ payment ∈ payments crates trace,
      Covers (engine.sequences.lastReserved payment.sourceAccount) payment) :
    Device.Covered crates trace ⟨db, survivor⟩ := by
  refine ⟨stored, ?_⟩
  intro other same
  rcases survives with rfl | rfl
  · simp at same
  · obtain rfl := Option.some_inj.mp same
    exact inMemory

theorem payments_of_uncommitted {label : Label}
    (uncommitted : label.committed crates = none) (trace : List Label) :
    payments crates (trace ++ [label]) = payments crates trace := by
  simp [uncommitted]

theorem Device.Covered.congr {trace other : List Label} {device : Device}
    (covered : device.Covered crates trace)
    (same : payments crates other = payments crates trace) :
    device.Covered crates other := by
  obtain ⟨stored, inMemory⟩ := covered
  exact ⟨same ▸ stored, same ▸ inMemory⟩

theorem covered_of_effect {trace : List Label} {device after : Device}
    {label : Label} (covered : device.Covered crates trace)
    (guarded : NoRewind crates trace device label)
    (effect : Effect crates device label after) :
    after.Covered crates (trace ++ [label]) := by
  cases committed : label.committed crates with
  | none =>
      refine Device.Covered.congr ?_ (payments_of_uncommitted committed trace)
      obtain ⟨stored, inMemory⟩ := covered
      cases effect with
      | unchanged silent => exact ⟨stored, inMemory⟩
      | stopped silent => exact ⟨stored, by simp⟩
      | opened onFile rebuilt =>
          refine covered_of_survives (.inr rfl) stored ?_
          rw [rebuilt.sequences]
          exact stored
      | seededInMemory =>
          exact covered_of_survives (.inr rfl) stored
            (covers_update (inMemory _ rfl) (guarded (by decide))
              fun other =>
                SequenceReservationManager.lastReserved_seed _ _ _ _)
      | seeded survives effective =>
          have bounded := guarded (by rintro rfl; cases effective)
          exact covered_of_survives survives
            (covers_update stored bounded fun other =>
              HashMap.lookup_insert_ite _ _ _ _)
            (covers_update (inMemory _ rfl) bounded fun other =>
              SequenceReservationManager.lastReserved_seed _ _ _ _)
      | @rolledBack db engine request stamp unixNow write error =>
          refine covered_of_survives (.inr rfl) stored (covers_update
            (inMemory _ rfl) ?_ fun other =>
              SyncEngine.lastReserved_ensureSeeded _ _ _)
          intro payment member same
          obtain ⟨last, held, bounded⟩ := inMemory _ rfl payment member
          rwa [← same, held]
      | paid accepts other survives => simp [other] at committed
      | @dispatched db engine head rest unixNow popped =>
          exact covered_of_survives (.inr rfl) stored (inMemory engine rfl)
      | dispatchCut popped => exact ⟨stored, by simp⟩
      | @marked db after engine survivor messageId current next updatedAt
          writes reply held legal envelopes reservations status survives =>
          rw [← reservations] at stored
          rcases survives with rfl | ⟨_, ⟨_, rfl⟩ | ⟨_, rfl⟩⟩
          · exact ⟨stored, by simp⟩
          · exact covered_of_survives (.inr rfl) stored (inMemory engine rfl)
          · exact covered_of_survives (.inr rfl) stored (inMemory engine rfl)
  | some payment =>
      cases effect with
      | unchanged silent => simp [silent.committed] at committed
      | stopped silent => simp [silent.committed] at committed
      | @paid db engine survivor request stamp unixNow write reply other
          envelopeBytes taken accepts commits survives effective =>
          obtain rfl := Option.some_inj.mp (commits.symm.trans committed)
          have room := guarded _ rfl _ (accepts.stores effective)
          have bounded : ∀ earlier ∈ payments crates trace,
              earlier.sourceAccount = other.sourceAccount →
              earlier.sequence ≤ other.sequence :=
            fun earlier member same => Int64.le_of_lt
              (covered.lt_sequence rfl accepts room member same)
          have listed : payments crates (trace ++
              [⟨.queuePayment request stamp unixNow write, reply⟩]) =
              payments crates trace ++ [other] := by
            simp [commits]
          refine covered_of_survives survives ?_ ?_
          · rw [listed]
            exact covers_snoc
              (covers_update covered.stored bounded
                Database.reservation_enqueued)
              ((Database.reservation_enqueued _).trans (if_pos rfl))
          · rw [listed]
            exact covers_snoc
              (covers_update (covered.inMemory engine rfl) bounded
                accepts.lastReserved_taken)
              ((accepts.lastReserved_taken _).trans (if_pos rfl))
      | _ => simp [Label.committed] at committed

/-- As long as no reservation is wound back, no two payments of an account have
the same number: each is above the ones before it. -/
theorem sequence_reuse_free {trace : List Label} {device : Device}
    (run : (fileEngine crates file).RunUnder (NoRewind crates) trace device) :
    (payments crates trace).Pairwise fun earlier later =>
      earlier.sourceAccount = later.sourceAccount →
        earlier.sequence ≠ later.sequence := by
  refine (run_invariant (fun trace device =>
    device.Covered crates trace ∧
      (payments crates trace).Pairwise fun earlier later =>
        earlier.sourceAccount = later.sourceAccount →
          earlier.sequence < later.sequence)
    ⟨⟨by simp, by simp⟩, by simp⟩ ?_ run).2.imp
      fun increasing same => Int64.ne_of_lt (increasing same)
  intro trace device label after _ ⟨covered, increasing⟩ guarded effect
  refine ⟨covered_of_effect covered guarded effect, ?_⟩
  cases committed : label.committed crates with
  | none => rwa [payments_of_uncommitted committed]
  | some payment =>
      rw [payments_snoc, committed, Option.toList_some,
        List.pairwise_append]
      refine ⟨increasing, List.pairwise_singleton _ _, ?_⟩
      intro earlier member later single
      obtain rfl := List.mem_singleton.mp single
      cases effect with
      | unchanged silent => simp [silent.committed] at committed
      | stopped silent => simp [silent.committed] at committed
      | paid accepts commits survives effective =>
          obtain rfl := Option.some_inj.mp (commits.symm.trans committed)
          have room := guarded _ rfl _ (accepts.stores effective)
          exact covered.lt_sequence rfl accepts room member
      | _ => simp [Label.committed] at committed

/-- Seeding an account again while a payment of it is outstanding makes the next
payment take the same number. -/
theorem sequence_reused :
    ∃ trace device, (fileEngine Sample.crates Sample.file).Run trace device ∧
      ¬ (payments Sample.crates trace).Pairwise fun earlier later =>
        earlier.sourceAccount = later.sourceAccount →
          earlier.sequence ≠ later.sequence :=
  exists_run Sample.crates Sample.file _ _ [Sample.openEmpty,
    .seedAccount Sample.account 0 .applied,
    .queuePayment (Sample.request "AQ") (Sample.stamp 1) 1000 .applied,
    .seedAccount Sample.account 0 .applied,
    .queuePayment (Sample.request "AQ") (Sample.stamp 5) 1001 .applied]
    (by decide +kernel)

/-- Two payments after one seeding. -/
theorem sequence_reuse_free_two :
    ∃ trace, (payments Sample.crates trace).length = 2 ∧
      (payments Sample.crates trace).Pairwise fun earlier later =>
        earlier.sourceAccount = later.sourceAccount →
          earlier.sequence ≠ later.sequence := by
  obtain ⟨trace, device, run, two⟩ := exists_run Sample.crates Sample.file
    (NoRewind Sample.crates)
    (fun trace _ => (payments Sample.crates trace).length = 2)
    [Sample.openEmpty,
      .seedAccount Sample.account 0 .applied,
      .queuePayment (Sample.request "AQ") (Sample.stamp 1) 1000 .applied,
      .queuePayment (Sample.request "Ag") (Sample.stamp 2) 1001 .applied]
    (by decide +kernel)
  exact ⟨trace, two, sequence_reuse_free run⟩

end StellarConduit
