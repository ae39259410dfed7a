import SyncEngine.Engine.Agreement
import SyncEngine.Ffi
import SyncEngine.Storage.Reads

namespace StellarConduit

open Data

/-! Sessions of a caller in C: one handle at a time on one database file. A
pointer to a string is the bytes before its terminator, or null. -/

/-- Borrow a pointer as a text. -/
def cstrToStr (ptr : Option Bytes) : Option String :=
  ptr.bind fun bytes => String.fromUTF8? ⟨bytes.toArray⟩

def decodeSigningKey (seedHex : String) : Option SigningKey := do
  let bytes ← hexDecode seedHex.toList
  (Bytes32.tryFrom bytes).map SigningKey.mk

/-- `live` is false where the caller passes a null handle. A listing finds the
rows of `scan`, whoever recorded them: no call of the boundary writes to that
table. -/
inductive FfiCall
  | engineOpen (dbPathPtr : Option Bytes) (scans : Scans) (read : Read)
  | engineClose (live : Bool)
  | seedAccount (live : Bool) (sourceAccountPtr : Option Bytes)
      (currentChainSequence : Int64) (write : Write)
  | queuePayment (live : Bool)
      (sourceAccountPtr signingSeedHexPtr txXdrPtr : Option Bytes)
      (priority ttlHops : UInt8) (stamp : EnvelopeStamp) (unixNow : UInt64)
      (write : Write)
  | settlementStatus (live : Bool) (messageIdHexPtr : Option Bytes)
  | listUnresolvedConflicts (live : Bool) (scan : List ConflictRow)
      (read : Read)

inductive FfiReply
  | handle (live : Bool)
  | closed
  | flag (succeeded : Bool)
  | text (ptr : Option Bytes)
  | crashed
  deriving DecidableEq

structure FfiLabel where
  call : FfiCall
  reply : FfiReply

/-- What a call makes of the engine's answer. -/
def Reply.toFfi : Reply → FfiReply
  | .opened result => .handle result.isOk
  | .dropped => .closed
  | .seeded result => .flag result.isOk
  | .queued (.ok envelope) => .text (CString.new (hexEncode envelope.messageId))
  | .queued (.error _) => .text none
  | .marked result => .flag result.isOk
  | .dispatched _ => .text none
  | .crashed => .crashed

section

variable (crates : Crates) (file : DatabaseFile) (device : Device)

/-- The engine's own call, made through the handle. -/
def Device.forward (call : Call) : Option (FfiReply × Device) :=
  (device.perform crates file call).map fun done => (done.1.toFfi, done.2)

def sseEngineOpen (dbPathPtr : Option Bytes) (scans : Scans) (read : Read) :
    Option (FfiReply × Device) :=
  match cstrToStr dbPathPtr with
  | none => some (.handle false, device)
  | some _ => device.forward crates file (.openPath scans read)

def sseEngineClose (live : Bool) : Option (FfiReply × Device) :=
  match live with
  | false => some (.closed, device)
  | true => device.forward crates file .drop

def sseSeedAccount (live : Bool) (sourceAccountPtr : Option Bytes)
    (currentChainSequence : Int64) (write : Write) :
    Option (FfiReply × Device) :=
  match live, cstrToStr sourceAccountPtr with
  | true, some sourceAccount => device.forward crates file
      (.seedAccount sourceAccount currentChainSequence write)
  | _, _ => some (.flag false, device)

/-- The request that the arguments of `sse_queue_payment` make, if they are
well formed. -/
def paymentRequest (live : Bool)
    (sourceAccountPtr signingSeedHexPtr txXdrPtr : Option Bytes)
    (priority ttlHops : UInt8) : Option PaymentRequest :=
  match live with
  | false => none
  | true => do
      let sourceAccount ← cstrToStr sourceAccountPtr
      let seedHex ← cstrToStr signingSeedHexPtr
      let txXdr ← cstrToStr txXdrPtr
      let signingKey ← decodeSigningKey seedHex
      let priority ←
        (TxPriority.tryFromI64 (Int64.ofNat priority.toNat)).toOption
      some ⟨sourceAccount, signingKey, txXdr, priority, ttlHops⟩

def sseQueuePayment (live : Bool)
    (sourceAccountPtr signingSeedHexPtr txXdrPtr : Option Bytes)
    (priority ttlHops : UInt8) (stamp : EnvelopeStamp) (unixNow : UInt64)
    (write : Write) : Option (FfiReply × Device) :=
  match paymentRequest live sourceAccountPtr signingSeedHexPtr txXdrPtr
      priority ttlHops with
  | none => some (.text none, device)
  | some request => device.forward crates file
      (.queuePayment request stamp unixNow write)

end

/-- The answer of `sse_settlement_status` through a handle to `engine`. -/
def SyncEngine.sseSettlementStatus (engine : SyncEngine)
    (messageIdHexPtr : Option Bytes) : Option Bytes := do
  let messageId ← (cstrToStr messageIdHexPtr).bind decodeMessageId
  let status ← engine.settlementStatus messageId
  CString.new status.asStr

def sseSettlementStatus (device : Device) (live : Bool)
    (messageIdHexPtr : Option Bytes) : Option (FfiReply × Device) :=
  match live with
  | false => some (.text none, device)
  | true => device.engine.map fun engine =>
      (.text (engine.sseSettlementStatus messageIdHexPtr), device)

def SyncEngine.listUnresolvedConflicts (scan : List ConflictRow)
    (read : Read) : Except SyncEngineError (List Conflict) :=
  match read with
  | .refused => .error .connectionError
  | .served => .ok (StoreDb.listUnresolvedConflicts scan)

def sseListUnresolvedConflictsThrough (device : Device) (live : Bool)
    (scan : List ConflictRow) (read : Read) : Option (FfiReply × Device) :=
  match live with
  | false => some (.text none, device)
  | true => device.engine.map fun _ => (.text (sseListUnresolvedConflicts
      (SyncEngine.listUnresolvedConflicts scan read)), device)

def Device.performFfi (crates : Crates) (file : DatabaseFile)
    (device : Device) : FfiCall → Option (FfiReply × Device)
  | .engineOpen dbPathPtr scans read =>
      sseEngineOpen crates file device dbPathPtr scans read
  | .engineClose live => sseEngineClose crates file device live
  | .seedAccount live sourceAccountPtr currentChainSequence write =>
      sseSeedAccount crates file device live sourceAccountPtr
        currentChainSequence write
  | .queuePayment live sourceAccountPtr signingSeedHexPtr txXdrPtr priority
      ttlHops stamp unixNow write =>
      sseQueuePayment crates file device live sourceAccountPtr
        signingSeedHexPtr txXdrPtr priority ttlHops stamp unixNow write
  | .settlementStatus live messageIdHexPtr =>
      sseSettlementStatus device live messageIdHexPtr
  | .listUnresolvedConflicts live scan read =>
      sseListUnresolvedConflictsThrough device live scan read

/-- A path that is opened is that of the file, a scan visits the rows that are
there, and a handle is not used after it is closed. -/
def FfiCall.Admissible (file : DatabaseFile) (device : Device) :
    FfiCall → Prop
  | .engineOpen dbPathPtr scans _ =>
      ∀ path, cstrToStr dbPathPtr = some path →
        path = file.path ∧ scans.Enumerate device.db
  | .engineClose live => live = true → device.engine.isSome = true
  | .seedAccount live _ _ _ => live = true → device.engine.isSome = true
  | .queuePayment live _ _ _ _ _ _ _ _ =>
      live = true → device.engine.isSome = true
  | .settlementStatus live _ => live = true → device.engine.isSome = true
  | .listUnresolvedConflicts live _ _ =>
      live = true → device.engine.isSome = true

def ffiSession (crates : Crates) (file : DatabaseFile) :
    System Device FfiLabel where
  init device := device = ⟨.empty, none⟩
  step device label after := label.call.Admissible file device ∧
    device.performFfi crates file label.call = some (label.reply, after)

/-- The id of the payment that a call stored: the one it hands out, or that of
a call cut off after its transaction. -/
def FfiLabel.storedId (label : FfiLabel) : Option Bytes32 :=
  match label.call, label.reply with
  | .queuePayment _ _ _ _ _ _ stamp _ _, .text (some _) =>
      some stamp.messageId
  | .queuePayment _ _ _ _ _ _ stamp _ .lostAfter, .crashed =>
      some stamp.messageId
  | _, _ => none

/-- The call is one of `sse_queue_payment`. -/
def FfiCall.Queues : FfiCall → Prop
  | .queuePayment _ _ _ _ _ _ _ _ _ => True
  | _ => False

def storedIds (trace : List FfiLabel) : List Bytes32 :=
  trace.filterMap FfiLabel.storedId

/-! Strings of the boundary. -/

theorem cstrToStr_utf8 (text : String) :
    cstrToStr (some text.toUTF8.toList) = some text := by
  have bytes : (⟨text.toUTF8.toList.toArray⟩ : ByteArray) =
      text.toByteArray := by
    rw [ByteLayout.toList_eq]
    rfl
  rw [cstrToStr, Option.bind_some, bytes, String.fromUTF8?,
    dif_pos text.isValidUTF8]
  rfl

theorem CString.new_hexEncode (messageId : Bytes32) :
    CString.new (hexEncode messageId) =
      some (hexEncode messageId).toUTF8.toList := by
  apply if_neg
  apply ByteLayout.zero_not_mem_utf8
  intro zero
  rw [hexEncode, String.toList_ofList, List.mem_flatMap] at zero
  obtain ⟨byte, _, digit⟩ := zero
  obtain ⟨high, low⟩ := hexDigit_plain byte
  simp only [List.mem_cons, List.not_mem_nil, or_false] at digit
  rcases digit with same | same
  · rw [← same] at high
    cases high
  · rw [← same] at low
    cases low

/-! Every call is one of the engine's, or leaves the device as it is. -/

/-- The calls of an engine that the boundary makes. -/
def Call.ViaFfi : Call → Prop
  | .nextToDispatch _ _ => False
  | .markSettlement _ _ _ _ => False
  | _ => True

variable {crates : Crates} {file : DatabaseFile}

theorem exists_of_forward {device after : Device} {call : Call}
    {reply : FfiReply}
    (forwarded : device.forward crates file call = some (reply, after)) :
    ∃ answer, device.perform crates file call = some (answer, after) ∧
      reply = answer.toFfi := by
  obtain ⟨⟨answer, left⟩, performed, same⟩ :=
    Option.map_eq_some_iff.mp forwarded
  cases same
  exact ⟨answer, performed, rfl⟩

/-- What `queue_payment` answers, and the payment it is about. -/
theorem queuePayment_answer {device after : Device} {answer : Reply}
    {request : PaymentRequest} {stamp : EnvelopeStamp} {unixNow : UInt64}
    {write : Write} (sound : device.Sound crates)
    (performed : device.perform crates file
      (.queuePayment request stamp unixNow write) = some (answer, after)) :
    (∃ error, answer = .queued (.error error)) ∨
    (answer = .crashed ∧ write = .lostBefore) ∨
    ∃ payment, request.payment crates stamp unixNow = some payment ∧
      payment.envelope.messageId = stamp.messageId ∧
      (answer = .queued (.ok payment.envelope) ∨
        answer = .crashed ∧ write = .lostAfter) := by
  obtain ⟨db, alive⟩ := device
  cases alive with
  | none => simp [Device.perform] at performed
  | some engine =>
      have engineSound : engine.Sound crates db := sound.engine engine rfl
      simp only [Device.perform, Option.some.injEq] at performed
      rcases SyncEngine.queuePayment_cases crates engineSound.unguarded request
        stamp unixNow write db with ⟨_, error, outcome⟩ |
        ⟨payment, envelopeBytes, taken, accepts, outcome⟩
      · rw [outcome] at performed
        cases performed
        exact Or.inl ⟨error, rfl⟩
      · rw [outcome] at performed
        have named : payment.envelope.messageId = stamp.messageId := by
          rw [accepts.envelope]
          rfl
        have made := accepts.payment_eq
        cases write with
        | applied =>
            cases performed
            exact Or.inr (Or.inr ⟨payment, made, named, Or.inl rfl⟩)
        | refused =>
            cases performed
            exact Or.inl ⟨_, rfl⟩
        | lostBefore =>
            cases performed
            exact Or.inr (Or.inl ⟨rfl, rfl⟩)
        | lostAfter =>
            cases performed
            exact Or.inr (Or.inr ⟨payment, made, named, Or.inr ⟨rfl, rfl⟩⟩)

/-- The string that `sse_queue_payment` hands out names the payment that the
engine stored. -/
theorem storedId_of_queuePayment {device after : Device} {answer : Reply}
    {request : PaymentRequest} {stamp : EnvelopeStamp} {unixNow : UInt64}
    {write : Write} (sound : device.Sound crates)
    (performed : device.perform crates file
      (.queuePayment request stamp unixNow write) = some (answer, after))
    (live : Bool) (account seed xdr : Option Bytes) (priority ttl : UInt8) :
    FfiLabel.storedId ⟨.queuePayment live account seed xdr priority ttl stamp
        unixNow write, answer.toFfi⟩ =
      (Label.committed crates
        ⟨.queuePayment request stamp unixNow write, answer⟩).map
          fun payment => payment.envelope.messageId := by
  rcases queuePayment_answer sound performed with ⟨error, rfl⟩ |
    ⟨rfl, rfl⟩ | ⟨payment, made, named, rfl | ⟨rfl, rfl⟩⟩
  · rfl
  · rfl
  · simp [Reply.toFfi, CString.new_hexEncode, FfiLabel.storedId,
      Label.committed, made, named]
  · simp [Reply.toFfi, FfiLabel.storedId, Label.committed, made, named]

theorem handedOut_of_queuePayment {device after : Device} {answer : Reply}
    {request : PaymentRequest} {stamp : EnvelopeStamp} {unixNow : UInt64}
    {write : Write} (sound : device.Sound crates)
    (performed : device.perform crates file
      (.queuePayment request stamp unixNow write) = some (answer, after))
    {ptr : Bytes} (handed : answer.toFfi = .text (some ptr)) :
    ptr = (hexEncode stamp.messageId).toUTF8.toList := by
  rcases queuePayment_answer sound performed with ⟨error, rfl⟩ |
    ⟨rfl, _⟩ | ⟨payment, _, named, rfl | ⟨rfl, _⟩⟩
  · cases handed
  · cases handed
  · rw [Reply.toFfi, CString.new_hexEncode, named] at handed
    cases handed
    rfl
  · cases handed

/-- A call that only reads the engine leaves the device as it is. -/
theorem unchanged_of_read {device after : Device} {reply : FfiReply}
    {engine : Option SyncEngine} {answer : SyncEngine → FfiReply}
    (performed : engine.map (fun engine => (answer engine, device)) =
      some (reply, after)) : after = device := by
  obtain ⟨engine, _, same⟩ := Option.map_eq_some_iff.mp performed
  exact (congrArg Prod.snd same).symm

theorem ffi_step {device after : Device} {label : FfiLabel}
    (sound : device.Sound crates)
    (stepped : (ffiSession crates file).step device label after) :
    (after = device ∧ label.storedId = none) ∨
    ∃ engineLabel, (fileEngine crates file).step device engineLabel after ∧
      engineLabel.call.ViaFfi ∧
      (engineLabel.committed crates).map
          (fun payment => payment.envelope.messageId) = label.storedId := by
  obtain ⟨call, reply⟩ := label
  obtain ⟨admissible, performed⟩ := stepped
  cases call with
  | engineOpen dbPathPtr scans read =>
      simp only [Device.performFfi, sseEngineOpen] at performed
      split at performed
      · cases performed
        exact Or.inl ⟨rfl, rfl⟩
      · rename_i path decoded
        obtain ⟨answer, opened, rfl⟩ := exists_of_forward performed
        exact Or.inr ⟨⟨.openPath scans read, answer⟩,
          ⟨(admissible path decoded).2, opened⟩, trivial, rfl⟩
  | engineClose live =>
      cases live with
      | false =>
          cases performed
          exact Or.inl ⟨rfl, rfl⟩
      | true =>
          obtain ⟨answer, dropped, rfl⟩ := exists_of_forward performed
          exact Or.inr ⟨⟨.drop, answer⟩, ⟨trivial, dropped⟩, trivial, rfl⟩
  | seedAccount live sourceAccountPtr currentChainSequence write =>
      simp only [Device.performFfi, sseSeedAccount] at performed
      split at performed
      · rename_i sourceAccount decoded
        obtain ⟨answer, seeded, rfl⟩ := exists_of_forward performed
        exact Or.inr ⟨⟨.seedAccount sourceAccount currentChainSequence write,
          answer⟩, ⟨trivial, seeded⟩, trivial, rfl⟩
      · cases performed
        exact Or.inl ⟨rfl, rfl⟩
  | queuePayment live sourceAccountPtr signingSeedHexPtr txXdrPtr priority
      ttlHops stamp unixNow write =>
      simp only [Device.performFfi, sseQueuePayment] at performed
      split at performed
      · cases performed
        exact Or.inl ⟨rfl, rfl⟩
      · rename_i request wellFormed
        obtain ⟨answer, queued, rfl⟩ := exists_of_forward performed
        exact Or.inr ⟨⟨.queuePayment request stamp unixNow write, answer⟩,
          ⟨trivial, queued⟩, trivial,
          (storedId_of_queuePayment sound queued _ _ _ _ _ _).symm⟩
  | settlementStatus live messageIdHexPtr =>
      simp only [Device.performFfi, sseSettlementStatus] at performed
      split at performed
      · cases performed
        exact Or.inl ⟨rfl, rfl⟩
      · exact Or.inl ⟨unchanged_of_read performed, rfl⟩
  | listUnresolvedConflicts live scan read =>
      simp only [Device.performFfi, sseListUnresolvedConflictsThrough]
        at performed
      split at performed
      · cases performed
        exact Or.inl ⟨rfl, rfl⟩
      · exact Or.inl ⟨unchanged_of_read performed, rfl⟩

/-- A session at the boundary is a run of the engine that stores the same
payments. -/
theorem exists_engine_run {trace : List FfiLabel} {device : Device}
    (run : (ffiSession crates file).Run trace device) :
    ∃ engineTrace, (fileEngine crates file).RunUnder
        (fun _ _ label => label.call.ViaFfi) engineTrace device ∧
      (payments crates engineTrace).map
          (fun payment => payment.envelope.messageId) = storedIds trace := by
  refine run.projects id (fun trace engineTrace =>
    (payments crates engineTrace).map
      (fun payment => payment.envelope.messageId) = storedIds trace) ?_ ?_
  · intro device start
    exact ⟨start, rfl⟩
  · intro trace device label after engineTrace stepped _ alongside same
    rcases ffi_step (run_sound alongside) stepped with
      ⟨rfl, silent⟩ | ⟨engineLabel, engineStepped, viaFfi, stored⟩
    · refine Or.inl ⟨rfl, ?_⟩
      rw [same, storedIds, storedIds, List.filterMap_append]
      simp [silent]
    · refine Or.inr ⟨engineLabel, engineStepped, viaFfi, ?_⟩
      rw [payments_snoc, List.map_append, same, storedIds, storedIds,
        List.filterMap_append]
      congr 1
      rw [List.filterMap_cons, ← stored]
      cases engineLabel.committed crates <;> rfl

/-! What a session is told about its payments. -/

/-- Every payment of the trace is queued, and nothing else is in the table. -/
def AllQueued (crates : Crates) (trace : List Label) (db : Database) : Prop :=
  ∀ messageId : Bytes32, db.statusText messageId.toVec =
    if messageId ∈ (payments crates trace).map
        fun payment => payment.envelope.messageId then
      some SettlementStatus.queued.asStr
    else none

theorem AllQueued.uncommitted {trace : List Label} {db after : Database}
    {label : Label} (queued : AllQueued crates trace db)
    (none : label.committed crates = none)
    (same : ∀ key, after.statusText key = db.statusText key) :
    AllQueued crates (trace ++ [label]) after := by
  intro messageId
  rw [same, queued, payments_snoc, none, Option.toList_none, List.append_nil]

theorem allQueued_of_effect {trace : List Label} {device after : Device}
    {label : Label} (viaFfi : label.call.ViaFfi)
    (queued : AllQueued crates trace device.db)
    (effect : Effect crates device label after) :
    AllQueued crates (trace ++ [label]) after.db := by
  cases effect with
  | unchanged silent => exact queued.uncommitted silent.committed fun _ => rfl
  | stopped silent => exact queued.uncommitted silent.committed fun _ => rfl
  | opened => exact queued.uncommitted rfl fun _ => rfl
  | seededInMemory => exact queued.uncommitted rfl fun _ => rfl
  | seeded => exact queued.uncommitted rfl fun _ => rfl
  | rolledBack => exact queued.uncommitted rfl fun _ => rfl
  | @paid db engine survivor request stamp unixNow write reply payment
      envelopeBytes taken accepts committed survives effective =>
      intro messageId
      rw [Database.statusText_enqueued, payments_snoc, committed,
        Option.toList_some, List.map_append, List.map_cons, List.map_nil]
      by_cases last : messageId = payment.envelope.messageId
      · rw [if_pos (congrArg Bytes32.toVec last), if_pos (by simp [last])]
      · rw [if_neg (Bytes32.toVec_ne last), queued messageId]
        simp [last]
  | dispatched => exact viaFfi.elim
  | dispatchCut => exact viaFfi.elim
  | marked => exact viaFfi.elim

theorem run_allQueued {trace : List Label} {device : Device}
    (run : (fileEngine crates file).RunUnder
      (fun _ _ label => label.call.ViaFfi) trace device) :
    AllQueued crates trace device.db ∧ device.Agrees := by
  refine run_invariant (fun trace device =>
    AllQueued crates trace device.db ∧ device.Agrees) ⟨?_, .of_db⟩ ?_ run
  · intro messageId
    rfl
  · intro trace device label after prior holds viaFfi effect
    obtain ⟨queued, agrees⟩ := holds
    have follows : WritesFollowTracker device label := by
      obtain ⟨call, reply⟩ := label
      cases call with
      | nextToDispatch unixNow write => exact viaFfi.elim
      | markSettlement messageId next updatedAt writes => exact viaFfi.elim
      | _ => trivial
    exact ⟨allQueued_of_effect viaFfi queued effect,
      agrees_of_effect (run_sound prior) agrees follows effect⟩

/-- The string a call of `sse_queue_payment` hands out is the hex of an id that
the session has stored. -/
theorem handedOut_stored {trace : List FfiLabel} {device : Device}
    (run : (ffiSession crates file).Run trace device) {label : FfiLabel}
    (member : label ∈ trace) (queues : label.call.Queues) {ptr : Bytes}
    (handed : label.reply = .text (some ptr)) :
    ∃ messageId ∈ storedIds trace,
      ptr = (hexEncode messageId).toUTF8.toList := by
  obtain ⟨before, after, split⟩ := List.append_of_mem member
  obtain ⟨device, later, prior, stepped, _⟩ := run.at_label split
  obtain ⟨engineTrace, alongside, _⟩ := exists_engine_run prior
  have sound := run_sound alongside
  obtain ⟨call, reply⟩ := label
  obtain rfl : reply = .text (some ptr) := handed
  cases call with
  | queuePayment live sourceAccountPtr signingSeedHexPtr txXdrPtr priority
      ttlHops stamp unixNow write =>
      refine ⟨stamp.messageId, List.mem_filterMap.mpr ⟨_, member, rfl⟩, ?_⟩
      have performed := stepped.2
      simp only [Device.performFfi, sseQueuePayment] at performed
      split at performed
      · cases performed
      · obtain ⟨answer, queued, same⟩ := exists_of_forward performed
        exact handedOut_of_queuePayment sound queued same.symm
  | _ => exact queues.elim

/-- A listing that storage serves hands out a text that reads back as the
unresolved conflicts. -/
theorem listed_readBack {trace : List FfiLabel} {device : Device}
    (run : (ffiSession crates file).Run trace device) {label : FfiLabel}
    (member : label ∈ trace) {scan : List ConflictRow}
    (lists : label.call = .listUnresolvedConflicts true scan .served) :
    ∃ ptr text value, label.reply = .text (some ptr) ∧
      cstrToStr (some ptr) = some text ∧
      Json.parse text.toList = some value ∧
      readConflicts value = some (StoreDb.listUnresolvedConflicts scan) := by
  obtain ⟨before, after, split⟩ := List.append_of_mem member
  obtain ⟨device, later, prior, stepped, _⟩ := run.at_label split
  obtain ⟨call, reply⟩ := label
  obtain rfl : call = .listUnresolvedConflicts true scan .served := lists
  obtain ⟨engine, _, same⟩ := Option.map_eq_some_iff.mp stepped.2
  have handed : CString.new
      (conflictsToJson (StoreDb.listUnresolvedConflicts scan)) =
        some (conflictsToJson
          (StoreDb.listUnresolvedConflicts scan)).toUTF8.toList :=
    if_neg (zero_not_mem_conflictsToJson _)
  refine ⟨_, conflictsToJson (StoreDb.listUnresolvedConflicts scan), _, ?_,
    cstrToStr_utf8 _, ?_, readConflicts_written _⟩
  · rw [← handed]
    exact (congrArg Prod.fst same).symm
  · exact Json.parse_eq_some.mpr (spells_conflictsToJson _).document

/-- In every session, over any number of handles one after another, with
malformed arguments, refused writes and crashes, `sse_settlement_status` says
`queued` of exactly the ids that `sse_queue_payment` handed out or stored
before it was cut off, and nothing of any other string, and what
`sse_list_unresolved_conflicts` hands out reads back as the conflicts. -/
theorem ffi_status_exact {trace : List FfiLabel} {device : Device}
    (run : (ffiSession crates file).Run trace device) {engine : SyncEngine}
    (alive : device.engine = some engine) :
    (∀ messageIdHexPtr, engine.sseSettlementStatus messageIdHexPtr =
      if ∃ messageId ∈ storedIds trace,
          (cstrToStr messageIdHexPtr).bind decodeMessageId =
            some messageId then
        some "queued".toUTF8.toList
      else none) ∧
    (∀ label ∈ trace, ∀ ptr, label.call.Queues →
      label.reply = .text (some ptr) →
      engine.sseSettlementStatus (some ptr) =
        some "queued".toUTF8.toList) ∧
    ∀ label ∈ trace, ∀ scan,
      label.call = .listUnresolvedConflicts true scan .served →
      ∃ ptr text value, label.reply = .text (some ptr) ∧
        cstrToStr (some ptr) = some text ∧
        Json.parse text.toList = some value ∧
        readConflicts value =
          some (StoreDb.listUnresolvedConflicts scan) := by
  obtain ⟨engineTrace, alongside, stored⟩ := exists_engine_run run
  obtain ⟨queued, agrees⟩ := run_allQueued alongside
  have known (messageId : Bytes32) :
      (engine.settlement.status messageId).map SettlementStatus.asStr =
        if messageId ∈ storedIds trace then
          some SettlementStatus.queued.asStr
        else none := by
    rw [agrees engine alive, queued, stored]
  have answers (ptr : Option Bytes) : engine.sseSettlementStatus ptr =
      if ∃ messageId ∈ storedIds trace,
          (cstrToStr ptr).bind decodeMessageId = some messageId then
        some "queued".toUTF8.toList
      else none := by
    unfold SyncEngine.sseSettlementStatus
    cases decoded : (cstrToStr ptr).bind decodeMessageId with
    | none => simp
    | some messageId =>
        have text := known messageId
        simp only [Option.some.injEq, exists_eq_right', Option.bind_eq_bind,
          Option.bind_some, SyncEngine.settlementStatus]
        by_cases held : messageId ∈ storedIds trace
        · rw [if_pos held] at text
          obtain ⟨status, tracked, same⟩ := Option.map_eq_some_iff.mp text
          rw [tracked, Option.bind_some, same, if_pos held]
          exact if_neg (ByteLayout.zero_not_mem_utf8 (by decide))
        · rw [if_neg held, Option.map_eq_none_iff] at text
          rw [text, if_neg held]
          rfl
  refine ⟨answers, ?_, fun label member scan => listed_readBack run member⟩
  intro label member ptr queues handed
  obtain ⟨messageId, held, rfl⟩ := handedOut_stored run member queues handed
  rw [answers, if_pos]
  refine ⟨messageId, held, ?_⟩
  rw [cstrToStr_utf8]
  exact decodeMessageId_hexEncode messageId

/-! A session that opens the file and queues a payment. -/

namespace Sample

def seedHex : String := String.ofList (List.replicate 64 '5')

def openCall : FfiCall :=
  .engineOpen (some Sample.file.path.toUTF8.toList) ⟨∅, ∅⟩ .served

def queueCall : FfiCall :=
  .queuePayment true (some account.toUTF8.toList) (some seedHex.toUTF8.toList)
    (some (txXdr "AQ").toUTF8.toList) 1 10 (stamp 1) 1000 .applied

theorem performFfi_openCall (device : Device) :
    device.performFfi Sample.crates Sample.file openCall =
      device.forward Sample.crates Sample.file openEmpty := by
  rw [openCall, Device.performFfi, sseEngineOpen, cstrToStr_utf8]
  rfl

theorem performFfi_queueCall (device : Device) :
    device.performFfi Sample.crates Sample.file queueCall = device.forward Sample.crates Sample.file
      (.queuePayment (request "AQ") (stamp 1) 1000 .applied) := by
  have wellFormed : paymentRequest true (some account.toUTF8.toList)
      (some seedHex.toUTF8.toList) (some (txXdr "AQ").toUTF8.toList) 1 10 =
        some (request "AQ") := by
    have key : decodeSigningKey seedHex = some signingKey := by
      decide +kernel
    rw [paymentRequest, cstrToStr_utf8, cstrToStr_utf8, cstrToStr_utf8]
    simp only [Option.bind_eq_bind, Option.bind_some, key]
    rfl
  rw [queueCall, Device.performFfi, sseQueuePayment, wellFormed]

end Sample

theorem ffi_status_exact_queued :
    ∃ (trace : List FfiLabel) (device : Device) (engine : SyncEngine),
      (ffiSession Sample.crates Sample.file).Run trace device ∧
      device.engine = some engine ∧
      engine.sseSettlementStatus
          (some (hexEncode (Sample.stamp 1).messageId).toUTF8.toList) =
        some "queued".toUTF8.toList := by
  have performs : (Device.perform Sample.crates Sample.file ⟨.empty, none⟩
      Sample.openEmpty).any (fun opened =>
        opened.2.engine.isSome &&
          (opened.2.perform Sample.crates Sample.file (.queuePayment
            (Sample.request "AQ") (Sample.stamp 1) 1000 .applied)).any
          fun queued => queued.2.engine.isSome &&
            decide (queued.1.toFfi = .text
              (some (hexEncode (Sample.stamp 1).messageId).toUTF8.toList))) =
      true := by
    decide +kernel
  obtain ⟨⟨openReply, opened⟩, openPerformed, rest⟩ :=
    (Option.any_eq_true _ _).mp performs
  obtain ⟨started, queues⟩ := (Bool.and_eq_true _ _).mp rest
  obtain ⟨⟨reply, device⟩, queuePerformed, both⟩ :=
    (Option.any_eq_true _ _).mp queues
  obtain ⟨alive, named⟩ := (Bool.and_eq_true _ _).mp both
  obtain ⟨engine, held⟩ := Option.isSome_iff_exists.mp alive
  have openStep : (ffiSession Sample.crates Sample.file).step ⟨.empty, none⟩
      ⟨Sample.openCall, openReply.toFfi⟩ opened := by
    refine ⟨?_, ?_⟩
    · intro path decoded
      rw [cstrToStr_utf8] at decoded
      exact ⟨(Option.some_inj.mp decoded).symm, rfl, rfl⟩
    · exact (Sample.performFfi_openCall _).trans
        (Option.map_eq_some_iff.mpr ⟨_, openPerformed, rfl⟩)
  have queueStep : (ffiSession Sample.crates Sample.file).step opened
      ⟨Sample.queueCall, reply.toFfi⟩ device :=
    ⟨fun _ => started, (Sample.performFfi_queueCall _).trans
      (Option.map_eq_some_iff.mpr ⟨_, queuePerformed, rfl⟩)⟩
  have run : (ffiSession Sample.crates Sample.file).Run
      [⟨Sample.openCall, openReply.toFfi⟩, ⟨Sample.queueCall, reply.toFfi⟩]
      device :=
    .snoc (.snoc (.start rfl) openStep trivial) queueStep trivial
  refine ⟨_, device, engine, run, held, ?_⟩
  apply (ffi_status_exact run held).2.1 ⟨Sample.queueCall, reply.toFfi⟩
    (by simp) _ trivial
  exact of_decide_eq_true named

end StellarConduit
