import SyncEngine.Engine.Dispatch
import SyncEngine.Engine.Reservations

namespace StellarConduit

open Data

/-! What becomes of a call that failed when it is made again, beside the class
that `classify` gives to its error. -/

variable {crates : Crates} {file : DatabaseFile}

def Reply.error : Reply → Option SyncEngineError
  | .opened (.error error) => some error
  | .seeded (.error error) => some error
  | .queued (.error error) => some error
  | .marked (.error error) => some error
  | _ => none

/-- Whether the envelope of a payment can be encoded. -/
def PaymentRequest.encodes (crates : Crates) (request : PaymentRequest)
    (stamp : EnvelopeStamp) : Bool :=
  (crates.rmpSerde.toVec (EnvelopeBuilder.build
    (crates.verifyingKey request.signingKey) request.txXdr request.ttlHops
    stamp)).isOk

/-- `retry` makes `call` again on `device`: with the same arguments, at any
time, and with whatever storage does by then. -/
def Call.MadeAgain (crates : Crates) (device : Device) :
    Call → Call → Prop
  | .openPath _ _, .openPath scans _ => scans.Enumerate device.db
  | .seedAccount account baseline _, .seedAccount account' baseline' _ =>
      account' = account ∧ baseline' = baseline
  | .queuePayment request stamp _ _, .queuePayment request' stamp' _ _ =>
      request' = request ∧
        request.encodes crates stamp' = request.encodes crates stamp
  | .markSettlement messageId next _ _, .markSettlement messageId' next' _ _ =>
      messageId' = messageId ∧ next' = next
  | _, _ => False

/-- Storage serves all that the call asks of it. -/
def Call.Served : Call → Prop
  | .openPath _ read => read = .served
  | .seedAccount _ _ write => write = .applied
  | .queuePayment _ _ _ write => write = .applied
  | .markSettlement _ _ _ writes => writes = ⟨.served, .applied, .applied⟩
  | _ => True

/-- However the call is made again on `device`, it answers `error` again and
leaves the device as it is. -/
def FailsAgain (crates : Crates) (file : DatabaseFile) (device : Device)
    (call : Call) (error : SyncEngineError) : Prop :=
  ∀ retry, call.MadeAgain crates device retry →
    ∃ reply, device.perform crates file retry = some (reply, device) ∧
      reply.error = some error

/-- Once storage serves it, the call succeeds on `device`. -/
def SucceedsServed (crates : Crates) (file : DatabaseFile) (device : Device)
    (call : Call) : Prop :=
  ∀ retry, call.MadeAgain crates device retry → retry.Served →
    ∃ reply after, device.perform crates file retry = some (reply, after) ∧
      reply.error = none ∧ reply ≠ .crashed

/-- The error says what a caller will find out by making the call again. -/
def ClassifiedRightly (crates : Crates) (file : DatabaseFile)
    (after : Device) (call : Call) (error : SyncEngineError) : Prop :=
  (error.classify = .permanent ∧ FailsAgain crates file after call error) ∨
    (error.classify = .transient ∧ SucceedsServed crates file after call)

theorem ClassifiedRightly.iff {after : Device} {call : Call}
    {error : SyncEngineError}
    (rightly : ClassifiedRightly crates file after call error)
    (possible : ∃ retry, call.MadeAgain crates after retry ∧ retry.Served) :
    (error.classify = .permanent ↔ FailsAgain crates file after call error) ∧
      (error.classify = .transient ↔
        SucceedsServed crates file after call) := by
  have exclusive : FailsAgain crates file after call error →
      ¬ SucceedsServed crates file after call := by
    intro fails succeeds
    obtain ⟨retry, again, served⟩ := possible
    obtain ⟨reply, performed, failed⟩ := fails retry again
    obtain ⟨other, _, alsoPerformed, noError, _⟩ :=
      succeeds retry again served
    rw [performed, Option.some.injEq, Prod.mk.injEq] at alsoPerformed
    rw [alsoPerformed.1, noError] at failed
    cases failed
  rcases rightly with ⟨permanent, fails⟩ | ⟨transient, succeeds⟩
  · exact ⟨iff_of_true permanent fails,
      iff_of_false (by simp [permanent]) (exclusive fails)⟩
  · exact ⟨iff_of_false (by simp [transient])
      fun fails => exclusive fails succeeds, iff_of_true transient succeeds⟩

/-! One call after the other. -/

section

variable {db : Database} {engine : SyncEngine} {reply : Reply}
  {after : Device} {error : SyncEngineError}

theorem openPath_classified (sound : Device.Sound crates ⟨db, none⟩)
    {scans : Scans} (enumerate : scans.Enumerate db) {read : Read}
    (performed : Device.perform crates file ⟨db, none⟩ (.openPath scans read) =
      some (reply, after))
    (failed : reply.error = some error) :
    ClassifiedRightly crates file after (.openPath scans read) error := by
  have opens {others : Scans} (enumerates : others.Enumerate db) :
      ∃ engine, SyncEngine.openPath crates file.path others .served db =
        .ok engine := by
    obtain ⟨engine, opened, _⟩ :=
      SyncEngine.openPath_ok sound.intact file.path enumerates
    exact ⟨engine, opened⟩
  cases read with
  | served =>
      obtain ⟨engine, opened⟩ := opens enumerate
      simp only [Device.perform, opened, Option.some.injEq,
        Prod.mk.injEq] at performed
      obtain ⟨rfl, -⟩ := performed
      simp [Reply.error] at failed
  | refused =>
      simp only [Device.perform, SyncEngine.openPath, Option.some.injEq,
        Prod.mk.injEq] at performed
      obtain ⟨rfl, rfl⟩ := performed
      obtain rfl := Option.some_inj.mp failed
      refine .inr ⟨rfl, ?_⟩
      intro retry again served
      cases retry with
      | openPath others read =>
          obtain rfl : read = .served := served
          obtain ⟨engine, opened⟩ := opens again
          exact ⟨.opened (.ok ()), ⟨db, some engine⟩,
            by simp [Device.perform, opened], rfl, by simp⟩
      | _ => exact absurd again id

theorem seedAccount_classified {account : String} {baseline : Int64}
    {write : Write}
    (settled : Device.settle (engine.seedAccount account baseline write db)
      .seeded = (reply, after))
    (failed : reply.error = some error) :
    ClassifiedRightly crates file after
      (.seedAccount account baseline write) error := by
  rw [SyncEngine.seedAccount_cases] at settled
  cases write with
  | refused =>
      obtain ⟨rfl, rfl⟩ := Prod.mk.inj settled
      obtain rfl := Option.some_inj.mp failed
      refine .inr ⟨rfl, ?_⟩
      intro retry again served
      cases retry with
      | seedAccount other number write =>
          obtain ⟨rfl, rfl⟩ := again
          obtain rfl : write = .applied := served
          exact ⟨.seeded (.ok ()), _, rfl, rfl, by simp⟩
      | _ => exact absurd again id
  | _ =>
      obtain ⟨rfl, -⟩ := Prod.mk.inj settled
      simp [Reply.error] at failed

/-- A payment is signed and stored as if its account had been seeded
before. -/
theorem SyncEngine.queuePayment_ensureSeeded (request : PaymentRequest)
    (stamp : EnvelopeStamp) (unixNow : UInt64) (write : Write)
    (db : Database) :
    SyncEngine.queuePayment crates { engine with
        sequences := ensureSeeded engine.sequences request.sourceAccount }
        request stamp unixNow write db =
      engine.queuePayment crates request stamp unixNow write db := by
  have twice : ensureSeeded (ensureSeeded engine.sequences
      request.sourceAccount) request.sourceAccount =
        ensureSeeded engine.sequences request.sourceAccount := by
    have held := SyncEngine.lastReserved_ensureSeeded engine.sequences
      request.sourceAccount request.sourceAccount
    rw [if_pos rfl] at held
    conv_lhs => rw [ensureSeeded, held]
    simp
  simp only [SyncEngine.queuePayment, twice]

theorem queuePayment_classified
    (encodingErrors : ∀ value error,
      crates.rmpSerde.toVec value = .error error →
        error = .serializationError)
    (unguarded : engine.queue.emergencyGuard = none)
    {request : PaymentRequest} {stamp : EnvelopeStamp} {unixNow : UInt64}
    {write : Write}
    (settled : Device.settle
      (engine.queuePayment crates request stamp unixNow write db) .queued =
        (reply, after))
    (failed : reply.error = some error) :
    ClassifiedRightly crates file after
      (.queuePayment request stamp unixNow write) error := by
  have held := SyncEngine.lastReserved_ensureSeeded engine.sequences
    request.sourceAccount request.sourceAccount
  rw [if_pos rfl] at held
  have again (db : Database) (stamp : EnvelopeStamp) (unixNow : UInt64)
      (write : Write) :
      Device.perform crates file ⟨db, some { engine with
          sequences := SyncEngine.ensureSeeded engine.sequences
            request.sourceAccount }⟩
          (.queuePayment request stamp unixNow write) =
        some (Device.settle (engine.queuePayment crates request stamp unixNow
          write db) .queued) := by
    simp only [Device.perform, SyncEngine.queuePayment_ensureSeeded]
  have rejectedAgain (rejection : SyncEngineError)
      (permanent : rejection.classify = .permanent)
      (rejects : ∀ other time writes,
        request.encodes crates other = request.encodes crates stamp →
        engine.queuePayment crates request other time writes db =
          .returned db ({ engine with
            sequences := SyncEngine.ensureSeeded engine.sequences
              request.sourceAccount }, .error rejection)) :
      ClassifiedRightly crates file after
        (.queuePayment request stamp unixNow write) error := by
    rw [rejects stamp unixNow write rfl] at settled
    obtain ⟨rfl, rfl⟩ := Prod.mk.inj settled
    obtain rfl := Option.some_inj.mp failed
    refine .inl ⟨permanent, ?_⟩
    intro retry made
    cases retry with
    | queuePayment other stamp' time writes =>
        obtain ⟨rfl, encodes⟩ := made
        exact ⟨.queued (.error rejection), by
          rw [again, rejects stamp' time writes encodes]
          rfl, rfl⟩
    | _ => exact absurd made id
  rcases OfflineEnvelopeBuilder.buildAndSign_of_lastReserved crates
      request.sourceAccount ((engine.sequences.lastReserved
        request.sourceAccount).getD 0) request.signingKey .classicalOnly
      request.txXdr request.ttlHops with ⟨rejection, permanent, rejects⟩ | signs
  · refine rejectedAgain rejection permanent fun other time writes _ => ?_
    simp only [SyncEngine.queuePayment, rejects _ other held]
  · have signed (other : EnvelopeStamp) := signs _ other held
    have reserved := SequenceReservationManager.reserveNext_of_reserved held
    have rolledBack :=
      SequenceReservationManager.releaseIgnored_reserveNext reserved
    cases encodes : request.encodes crates stamp with
    | false =>
        refine rejectedAgain .serializationError rfl
          fun other time writes same => ?_
        have notEncoded := same.trans encodes
        rw [PaymentRequest.encodes] at notEncoded
        cases encoded : crates.rmpSerde.toVec (EnvelopeBuilder.build
            (crates.verifyingKey request.signingKey) request.txXdr
            request.ttlHops other) with
        | ok bytes => simp [encoded, Except.isOk, Except.toBool] at notEncoded
        | error reason =>
            obtain rfl := encodingErrors _ _ encoded
            simp [SyncEngine.queuePayment, signed other,
              SyncEngineDb.enqueueTransaction, encoded, rolledBack]
    | true =>
        have accepted (other : EnvelopeStamp) (time : UInt64)
            (same : request.encodes crates other =
              request.encodes crates stamp) :
            ∃ payment, SyncEngine.Acceptable crates engine.sequences request
              other time payment := by
          have isEncoded := same.trans encodes
          rw [PaymentRequest.encodes] at isEncoded
          obtain ⟨extracted, taken, _⟩ :=
            OfflineEnvelopeBuilder.buildAndSign_ok (signed other)
          cases encoded : crates.rmpSerde.toVec (EnvelopeBuilder.build
              (crates.verifyingKey request.signingKey) request.txXdr
              request.ttlHops other) with
          | error reason =>
              simp [encoded, Except.isOk, Except.toBool] at isEncoded
          | ok bytes =>
              exact ⟨⟨_, request.sourceAccount, _, request.priority, time⟩,
                bytes, _, extracted, taken, rfl, rfl, rfl, rfl, encoded⟩
        obtain ⟨payment, acceptable⟩ := accepted stamp unixNow rfl
        rcases SyncEngine.queuePayment_cases crates unguarded request stamp
            unixNow write db with ⟨refusal, _⟩ | ⟨_, _, _, _, outcome⟩
        · exact absurd acceptable (refusal payment)
        rw [outcome] at settled
        cases write with
        | refused =>
            obtain ⟨rfl, rfl⟩ := Prod.mk.inj settled
            obtain rfl := Option.some_inj.mp failed
            refine .inr ⟨rfl, ?_⟩
            intro retry made served
            cases retry with
            | queuePayment other stamp' time writes =>
                obtain ⟨rfl, same⟩ := made
                obtain rfl : writes = .applied := served
                obtain ⟨payment, acceptable⟩ := accepted stamp' time same
                rcases SyncEngine.queuePayment_cases crates unguarded other
                    stamp' time .applied db with
                  ⟨refusal, _⟩ | ⟨_, _, _, _, outcome⟩
                · exact absurd acceptable (refusal payment)
                · rw [again, outcome]
                  exact ⟨_, _, rfl, rfl, by simp⟩
            | _ => exact absurd made id
        | _ =>
            obtain ⟨rfl, -⟩ := Prod.mk.inj settled
            simp [Reply.error] at failed

theorem markSettlement_classified {messageId : Bytes32}
    {next : SettlementStatus} {updatedAt : UInt64} {writes : StatusWrites}
    (settled : Device.settle
      (engine.markSettlement messageId next updatedAt writes db) .marked =
        (reply, after))
    (failed : reply.error = some error) :
    ClassifiedRightly crates file after
      (.markSettlement messageId next updatedAt writes) error := by
  have rejectedAgain (rejection : SyncEngineError)
      (permanent : rejection.classify = .permanent)
      (rejects : ∀ updatedAt writes db,
        engine.markSettlement messageId next updatedAt writes db =
          .returned db (engine, .error rejection)) :
      ClassifiedRightly crates file after
        (.markSettlement messageId next updatedAt writes) error := by
    rw [rejects] at settled
    obtain ⟨rfl, rfl⟩ := Prod.mk.inj settled
    obtain rfl := Option.some_inj.mp failed
    refine .inl ⟨permanent, ?_⟩
    intro retry again
    cases retry with
    | markSettlement other status time others =>
        obtain ⟨rfl, rfl⟩ := again
        exact ⟨.marked (.error rejection), by
          simp [Device.perform, rejects, Device.settle], rfl⟩
    | _ => exact absurd again id
  cases held : engine.settlement.status messageId with
  | none =>
      exact rejectedAgain (.envelopeNotFound (hexEncode messageId)) rfl
        fun updatedAt writes db => by
          simp [SyncEngine.markSettlement, held]
  | some current =>
      cases legal : current.canTransitionTo next with
      | false =>
          exact rejectedAgain
            (.invalidStateTransition current.asStr next.asStr) rfl
            fun updatedAt writes db => by
              simp [SyncEngine.markSettlement, held, legal]
      | true =>
          have served {db : Database} {updatedAt : UInt64} :
              ∃ after, Device.settle (engine.markSettlement messageId next
                updatedAt ⟨.served, .applied, .applied⟩ db) .marked =
                  (.marked (.ok ()), after) := by
            rcases SyncEngine.markSettlement_cases engine messageId next
                updatedAt ⟨.served, .applied, .applied⟩ db with
              ⟨illegal, _⟩ | ⟨_, _, _, outcome⟩
            · exact absurd (illegal current held) (by simp [legal])
            · exact ⟨_, by rw [outcome]; rfl⟩
          have kept : error = .connectionError ∧
              ∃ left, after = ⟨left, some engine⟩ := by
            rcases SyncEngine.markSettlement_cases engine messageId next
                updatedAt writes db with
              ⟨illegal, _⟩ | ⟨_, _, _, outcome⟩
            · exact absurd (illegal current held) (by simp [legal])
            · rw [outcome] at settled
              obtain ⟨select, replace, append⟩ := writes
              cases replace <;> cases append <;>
                obtain ⟨rfl, rfl⟩ := Prod.mk.inj settled <;>
                simp_all [Reply.error]
          obtain ⟨rfl, left, rfl⟩ := kept
          refine .inr ⟨rfl, ?_⟩
          intro retry again allServed
          cases retry with
          | markSettlement other status time others =>
              obtain ⟨rfl, rfl⟩ := again
              obtain rfl := allServed
              obtain ⟨later, answered⟩ := @served left time
              exact ⟨_, later, congrArg some answered, rfl, by simp⟩
          | _ => exact absurd again id

end

/-- The same call, with storage that serves it. -/
def Call.served : Call → Call
  | .openPath scans _ => .openPath scans .served
  | .seedAccount account baseline _ => .seedAccount account baseline .applied
  | .queuePayment request stamp unixNow _ =>
      .queuePayment request stamp unixNow .applied
  | .markSettlement messageId next updatedAt _ =>
      .markSettlement messageId next updatedAt ⟨.served, .applied, .applied⟩
  | call => call

theorem step_classified {device after : Device} {label : Label}
    {error : SyncEngineError} (sound : device.Sound crates)
    (encodingErrors : ∀ value error,
      crates.rmpSerde.toVec value = .error error →
        error = .serializationError)
    (stepped : (fileEngine crates file).step device label after)
    (failed : label.reply.error = some error) :
    ClassifiedRightly crates file after label.call error ∧
      label.call.MadeAgain crates after label.call.served := by
  obtain ⟨db, alive⟩ := device
  obtain ⟨call, reply⟩ := label
  obtain ⟨admissible, performed⟩ := stepped
  cases alive with
  | none =>
      cases call with
      | openPath scans read =>
          have kept : after.db = db := by
            simp only [Device.perform] at performed
            split at performed <;>
              obtain ⟨-, rfl⟩ := Prod.mk.inj (Option.some_inj.mp performed) <;>
              rfl
          refine ⟨openPath_classified sound admissible performed failed, ?_⟩
          change scans.Enumerate after.db
          rw [kept]
          exact admissible
      | _ => simp [Device.perform] at performed
  | some engine =>
      cases call with
      | openPath scans read => simp [Device.perform] at performed
      | drop =>
          simp only [Device.perform, Option.some.injEq, Prod.mk.injEq]
            at performed
          obtain ⟨rfl, -⟩ := performed
          simp [Reply.error] at failed
      | seedAccount account baseline write =>
          exact ⟨seedAccount_classified (Option.some_inj.mp performed) failed,
            rfl, rfl⟩
      | queuePayment request stamp unixNow write =>
          exact ⟨queuePayment_classified encodingErrors
            (sound.engine engine rfl).unguarded (Option.some_inj.mp performed)
            failed, rfl, rfl⟩
      | nextToDispatch unixNow write =>
          cases outcome : engine.nextToDispatch unixNow write db <;>
            simp only [Device.perform, Device.settle, outcome,
              Option.some.injEq, Prod.mk.injEq] at performed <;>
            simp [← performed.1, Reply.error] at failed
      | markSettlement messageId next updatedAt writes =>
          exact ⟨markSettlement_classified (Option.some_inj.mp performed)
            failed, rfl, rfl⟩

theorem Call.served_served (call : Call) : call.served.Served := by
  cases call <;> first | rfl | trivial

/-- `classify` tells, for every error an engine answers in a run, what making
the call again leads to. -/
theorem classify_tells {guard : List Label → Device → Label → Prop}
    {trace : List Label} {device after : Device} {label : Label}
    {error : SyncEngineError}
    (run : (fileEngine crates file).RunUnder guard trace device)
    (encodingErrors : ∀ value error,
      crates.rmpSerde.toVec value = .error error →
        error = .serializationError)
    (stepped : (fileEngine crates file).step device label after)
    (failed : label.reply.error = some error) :
    (error.classify = .permanent ↔
        FailsAgain crates file after label.call error) ∧
      (error.classify = .transient ↔
        SucceedsServed crates file after label.call) ∧
      error.classify ≠ .requiresEscalation := by
  obtain ⟨rightly, again⟩ :=
    step_classified (run_sound run) encodingErrors stepped failed
  obtain ⟨permanent, transient⟩ :=
    rightly.iff ⟨_, again, label.call.served_served⟩
  refine ⟨permanent, transient, ?_⟩
  rcases rightly with ⟨same, _⟩ | ⟨same, _⟩ <;> simp [same]

theorem Sample.encodingErrors (value : TransactionEnvelope)
    (error : SyncEngineError)
    (failed : Sample.crates.rmpSerde.toVec value = .error error) :
    error = .serializationError := by
  change Sample.toVec value = .error error at failed
  unfold Sample.toVec at failed
  repeat' split at failed
  all_goals simp_all

/-- A payment that storage refuses succeeds when it is made again, and one with
a wrong number never does. -/
theorem classify_tells_queuePayment :
    (∃ (label : Label) (after : Device),
      label.reply.error = some .connectionError ∧
        SucceedsServed Sample.crates Sample.file after label.call) ∧
    ∃ (label : Label) (after : Device),
      label.reply.error = some (.sequenceMismatch Sample.account 1 2) ∧
        FailsAgain Sample.crates Sample.file after label.call
          (.sequenceMismatch Sample.account 1 2) := by
  constructor
  · obtain ⟨trace, device, label, after, run, stepped, failed⟩ :=
      exists_step Sample.crates Sample.file (fun _ _ _ => True)
        (fun _ _ label _ => label.reply.error = some .connectionError)
        [Sample.openEmpty]
        (.queuePayment (Sample.request "AQ") (Sample.stamp 1) 1000 .refused)
        (by decide +kernel)
    exact ⟨label, after, failed, (classify_tells run Sample.encodingErrors
      stepped failed).2.1.mp rfl⟩
  · obtain ⟨trace, device, label, after, run, stepped, failed⟩ :=
      exists_step Sample.crates Sample.file (fun _ _ _ => True)
        (fun _ _ label _ => label.reply.error =
          some (.sequenceMismatch Sample.account 1 2))
        [Sample.openEmpty]
        (.queuePayment (Sample.request "Ag") (Sample.stamp 2) 1000 .applied)
        (by decide +kernel)
    exact ⟨label, after, failed, (classify_tells run Sample.encodingErrors
      stepped failed).1.mp rfl⟩

end StellarConduit
