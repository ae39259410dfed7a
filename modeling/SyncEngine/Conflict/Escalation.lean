import SyncEngine.Data.Fallible
import SyncEngine.Data.Outbox
import SyncEngine.Storage.Store
import SyncEngine.Storage.Sweep

namespace StellarConduit

open Data

/-! Escalations on their way to the chain: how one is built from the evidence
on both sides, and which ones the store lists until they are submitted. -/

variable {RelayChainProof : Type}

structure EscalationInput (RelayChainProof : Type) where
  messageId : Bytes32
  originPubkey : Bytes32
  firstSeenLocallyAt : UInt64
  proof : RelayChainProof

/-- `strkey` is `pubkey_to_stellar_address`. -/
def buildEscalation (strkey : Bytes32 → String) (conflict : Conflict)
    (envelopeA envelopeB : EscalationInput RelayChainProof) :
    Except SyncEngineError (DisputeEscalation RelayChainProof) :=
  if envelopeA.messageId ≠ conflict.envelopeA ∨
      envelopeB.messageId ≠ conflict.envelopeB then
    .error (.invalidEnvelope ("escalation evidence message ids (" ++
      hexEncode envelopeA.messageId ++ ", " ++ hexEncode envelopeB.messageId ++
      ") do not match conflict envelopes (" ++ hexEncode conflict.envelopeA ++
      ", " ++ hexEncode conflict.envelopeB ++ ") for account " ++
      conflict.sourceAccount ++ " sequence " ++ toString conflict.sequence))
  else
    let (initiator, respondent) :=
      if envelopeA.firstSeenLocallyAt ≤ envelopeB.firstSeenLocallyAt then
        (envelopeA, envelopeB)
      else
        (envelopeB, envelopeA)
    .ok {
      initiator := strkey initiator.originPubkey
      respondent := strkey respondent.originPubkey
      txId := initiator.messageId
      proof := initiator.proof }

structure PersistedEscalation (RelayChainProof : Type) where
  id : Int
  sourceAccount : String
  sequence : Int64
  envelopeA : Bytes32
  envelopeB : Bytes32
  escalation : DisputeEscalation RelayChainProof
  createdAt : UInt64

namespace StoreDb

def readEscalation (serde : RmpSerde RelayChainProof)
    (row : DisputeEscalationRow) :
    Except SyncEngineError (PersistedEscalation RelayChainProof) := do
  let proof ← serde.fromSlice row.proofBytes
  return {
    id := row.id
    sourceAccount := row.sourceAccount
    sequence := row.sequence
    envelopeA := Bytes32.orZero row.envelopeA
    envelopeB := Bytes32.orZero row.envelopeB
    escalation := {
      initiator := row.initiator
      respondent := row.respondent
      txId := Bytes32.orZero row.txId
      proof := proof }
    createdAt := row.createdAt.toUInt64 }

/-- What `list_pending_escalations` answers when storage serves it. The rows
come in the order of the scan, which the statement leaves open. -/
def listPendingEscalations (serde : RmpSerde RelayChainProof)
    (scan : List DisputeEscalationRow) :
    Except SyncEngineError (List (PersistedEscalation RelayChainProof)) :=
  (scan.filter fun row => row.submitted = 0).mapM (readEscalation serde)

end StoreDb

/-! The evidence that an escalation is built from. -/

section

variable {strkey : Bytes32 → String} {conflict : Conflict}
  {envelopeA envelopeB : EscalationInput RelayChainProof}

theorem buildEscalation_ok {escalation : DisputeEscalation RelayChainProof}
    (built : buildEscalation strkey conflict envelopeA envelopeB =
      .ok escalation) :
    ∃ initiator respondent : EscalationInput RelayChainProof,
      ((initiator, respondent) = (envelopeA, envelopeB) ∨
        (initiator, respondent) = (envelopeB, envelopeA)) ∧
      initiator.firstSeenLocallyAt ≤ respondent.firstSeenLocallyAt ∧
      envelopeA.messageId = conflict.envelopeA ∧
      envelopeB.messageId = conflict.envelopeB ∧
      escalation = ⟨strkey initiator.originPubkey,
        strkey respondent.originPubkey, initiator.messageId,
        initiator.proof⟩ := by
  unfold buildEscalation at built
  split at built
  · cases built
  · rename_i matching
    obtain ⟨first, second⟩ := not_or.mp matching
    by_cases earlier :
        envelopeA.firstSeenLocallyAt ≤ envelopeB.firstSeenLocallyAt
    · rw [if_pos earlier] at built
      exact ⟨envelopeA, envelopeB, .inl rfl, earlier, not_not.mp first,
        not_not.mp second, (Except.ok.inj built).symm⟩
    · rw [if_neg earlier] at built
      have later : envelopeB.firstSeenLocallyAt ≤
          envelopeA.firstSeenLocallyAt :=
        UInt64.le_of_lt (UInt64.not_le.mp earlier)
      exact ⟨envelopeB, envelopeA, .inr rfl, later, not_not.mp first,
        not_not.mp second, (Except.ok.inj built).symm⟩

/-- Which envelope is called `a` only matters when both were first seen at the
same time. -/
theorem buildEscalation_swapped
    (matching : envelopeA.messageId = conflict.envelopeA ∧
      envelopeB.messageId = conflict.envelopeB)
    (differ : envelopeA.firstSeenLocallyAt ≠ envelopeB.firstSeenLocallyAt) :
    buildEscalation strkey conflict.swapped envelopeB envelopeA =
      buildEscalation strkey conflict envelopeA envelopeB := by
  obtain ⟨first, second⟩ := matching
  have reversed :
      envelopeB.firstSeenLocallyAt ≤ envelopeA.firstSeenLocallyAt ↔
        ¬ envelopeA.firstSeenLocallyAt ≤ envelopeB.firstSeenLocallyAt := by
    rw [UInt64.not_le]
    constructor
    · intro below
      exact UInt64.lt_of_le_of_ne below differ.symm
    · exact UInt64.le_of_lt
  simp only [buildEscalation, Conflict.swapped, first, second, ne_eq,
    not_true_eq_false, or_self, if_false, reversed]
  by_cases earlier :
      envelopeA.firstSeenLocallyAt ≤ envelopeB.firstSeenLocallyAt
  · rw [if_pos earlier, if_neg (not_not.mpr earlier)]
  · rw [if_neg earlier, if_pos earlier]

end

/-! The store as a box of escalations. -/

/-- An escalation as `save_escalation` is handed it. -/
structure SavedEscalation (RelayChainProof : Type) where
  conflict : Conflict
  escalation : DisputeEscalation RelayChainProof
  createdAt : UInt64

namespace SavedEscalation

def persisted (saved : SavedEscalation RelayChainProof) (id : Int) :
    PersistedEscalation RelayChainProof where
  id := id
  sourceAccount := saved.conflict.sourceAccount
  sequence := saved.conflict.sequence
  envelopeA := saved.conflict.envelopeA
  envelopeB := saved.conflict.envelopeB
  escalation := saved.escalation
  createdAt := saved.createdAt

/-- `row` holds the escalation under its number, not submitted yet. -/
def Held (serde : RmpSerde RelayChainProof) (row : DisputeEscalationRow)
    (entry : Int × SavedEscalation RelayChainProof) : Prop :=
  ∃ proofBytes, serde.toVec entry.2.escalation.proof = .ok proofBytes ∧
    row = {
      id := entry.1
      sourceAccount := entry.2.conflict.sourceAccount
      sequence := entry.2.conflict.sequence
      envelopeA := entry.2.conflict.envelopeA.toVec
      envelopeB := entry.2.conflict.envelopeB.toVec
      initiator := entry.2.escalation.initiator
      respondent := entry.2.escalation.respondent
      txId := entry.2.escalation.txId.toVec
      proofBytes := proofBytes
      createdAt := entry.2.createdAt.toInt64
      submitted := 0 }

theorem Held.id_eq {serde : RmpSerde RelayChainProof}
    {row : DisputeEscalationRow}
    {entry : Int × SavedEscalation RelayChainProof}
    (held : Held serde row entry) : row.id = entry.1 := by
  obtain ⟨proofBytes, _, rfl⟩ := held
  rfl

theorem Held.read {serde : RmpSerde RelayChainProof}
    {row : DisputeEscalationRow}
    {entry : Int × SavedEscalation RelayChainProof}
    (held : Held serde row entry) :
    StoreDb.readEscalation serde row = .ok (entry.2.persisted entry.1) := by
  obtain ⟨proofBytes, encoded, rfl⟩ := held
  simp [StoreDb.readEscalation, serde.fromSlice_toVec _ _ encoded, persisted,
    bind, Except.bind, pure, Except.pure]

end SavedEscalation

/-- What a call puts into the table of escalations, or takes from it. -/
def StoreCall.boxEvent (encode : RelayChainProof → Except SyncEngineError Bytes) :
    StoreCall RelayChainProof →
      Option (BoxEvent (SavedEscalation RelayChainProof))
  | .saveEscalation conflict escalation createdAt writes =>
      if (encode escalation.proof).isOk ∧ writes.insert.takesEffect then
        some (.put ⟨conflict, escalation, createdAt⟩)
      else
        none
  | .markEscalationSubmitted id write =>
      if write.takesEffect then some (.take id) else none
  | _ => none

/-- The rows of the table are those of the box, and its next id is the next
number. -/
structure StoreDb.Boxed (serde : RmpSerde RelayChainProof) (store : StoreDb)
    (box : Outbox (SavedEscalation RelayChainProof)) : Prop where
  next : store.toEscalationDb.nextEscalationId = (box.issued : Int) + 1
  pending : List.Forall₂ (SavedEscalation.Held serde)
    (store.disputeEscalations.filter fun row => row.submitted = 0) box.pending

namespace StoreDb.Boxed

variable {serde : RmpSerde RelayChainProof} {store : StoreDb}
  {box : Outbox (SavedEscalation RelayChainProof)}

theorem start : Boxed serde .empty Outbox.empty :=
  ⟨rfl, .nil⟩

theorem congr (boxed : store.Boxed serde box) {after : StoreDb}
    (same : after.disputeEscalations = store.disputeEscalations) :
    after.Boxed serde box := by
  refine ⟨?_, same ▸ boxed.pending⟩
  rw [EscalationDb.nextEscalationId, same]
  exact boxed.next

theorem saved (boxed : store.Boxed serde box) (conflict : Conflict)
    (escalation : DisputeEscalation RelayChainProof) (createdAt : UInt64)
    {proofBytes : Bytes}
    (encoded : serde.toVec escalation.proof = .ok proofBytes)
    {after : StoreDb}
    (rows : after.disputeEscalations = store.disputeEscalations ++
      [store.toEscalationDb.escalationRow conflict escalation proofBytes
        createdAt]) :
    after.Boxed serde
      (box.step (some (.put ⟨conflict, escalation, createdAt⟩))) := by
  constructor
  · rw [EscalationDb.nextEscalationId, rows, List.foldl_append]
    have next := boxed.next
    rw [EscalationDb.nextEscalationId] at next
    simp only [List.foldl_cons, List.foldl_nil, EscalationDb.escalationRow,
      EscalationDb.nextEscalationId, Outbox.step, Nat.cast_add, Nat.cast_one]
    omega
  · rw [rows, List.filter_append]
    refine List.rel_append boxed.pending (.cons ⟨proofBytes, encoded, ?_⟩ .nil)
    rw [EscalationDb.escalationRow, boxed.next]

theorem submitted (boxed : store.Boxed serde box) (id : Int)
    {after : StoreDb}
    (rows : after.disputeEscalations =
      store.disputeEscalations.map (markSubmitted id)) :
    after.Boxed serde (box.step (some (.take id))) := by
  constructor
  · rw [EscalationDb.nextEscalationId, rows, List.foldl_map]
    have next := boxed.next
    rw [EscalationDb.nextEscalationId] at next
    simpa only [id_markSubmitted, Outbox.step] using next
  · have left : (after.disputeEscalations.filter fun row =>
          row.submitted = 0) =
        (store.disputeEscalations.filter fun row =>
          row.submitted = 0).filter fun row => row.id ≠ id := by
      rw [rows]
      induction store.disputeEscalations with
      | nil => rfl
      | cons row rest induction =>
          rw [List.map_cons, List.filter_cons, induction, List.filter_cons]
          by_cases same : row.id = id <;>
            by_cases pending : row.submitted = 0 <;>
            simp [markSubmitted, same, pending]
    rw [left]
    refine List.rel_filter (fun row entry held => ?_) boxed.pending
    simp [held.id_eq]

theorem perform (boxed : store.Boxed serde box) (self : SyncEngineDb)
    (crates : Crates) (call : StoreCall RelayChainProof) :
    (store.perform self crates serde.toVec call).Boxed serde
      (box.step (call.boxEvent serde.toVec)) := by
  cases call with
  | saveEscalation conflict escalation createdAt writes =>
      rcases disputeEscalations_saveEscalation self crates serde.toVec store
          conflict escalation createdAt writes with
        ⟨nothing, same⟩ | ⟨proofBytes, ⟨encoded, inserted⟩, rows⟩
      · have silent : (StoreCall.saveEscalation conflict escalation createdAt
            writes).boxEvent serde.toVec = none := by
          apply if_neg
          rintro ⟨encodes, inserted⟩
          cases encoded : serde.toVec escalation.proof with
          | error error => simp [encoded, Except.isOk, Except.toBool] at encodes
          | ok proofBytes => exact nothing proofBytes ⟨encoded, inserted⟩
        rw [silent]
        exact boxed.congr same
      · have event : (StoreCall.saveEscalation conflict escalation createdAt
            writes).boxEvent serde.toVec =
              some (.put ⟨conflict, escalation, createdAt⟩) :=
          if_pos ⟨by simp [encoded, Except.isOk, Except.toBool], inserted⟩
        rw [event]
        exact boxed.saved conflict escalation createdAt encoded rows
  | markEscalationSubmitted id write =>
      cases write with
      | applied => exact boxed.submitted id rfl
      | refused => exact boxed.congr rfl
      | lostBefore => exact boxed.congr rfl
      | lostAfter => exact boxed.submitted id rfl
  | recordConflict conflict detectedAt write =>
      cases write <;> exact boxed.congr rfl
  | _ => exact boxed.congr rfl

end StoreDb.Boxed

theorem EscalationDb.saveEscalation_id
    {encode : RelayChainProof → Except SyncEngineError Bytes}
    {conflict : Conflict} {escalation : DisputeEscalation RelayChainProof}
    {createdAt : UInt64} {writes : EscalationWrites}
    {store after : EscalationDb} {id : Int}
    (answered : saveEscalation encode conflict escalation createdAt writes
      store = .returned after (.ok id)) : id = store.nextEscalationId := by
  unfold saveEscalation at answered
  split at answered
  · cases answered
  · obtain ⟨_, _, -, answered⟩ := Outcome.exists_of_tryBind_ok answered
    obtain ⟨_, _, -, answered⟩ := Outcome.exists_of_tryBind_ok answered
    obtain ⟨_, _, -, answered⟩ := Outcome.exists_of_tryBind_ok answered
    cases answered
    rfl

/-- What a label stores in the table of escalations. -/
def StoreLabel.saves (encode : RelayChainProof → Except SyncEngineError Bytes)
    (label : StoreLabel RelayChainProof) :
    Option (SavedEscalation RelayChainProof) :=
  match label.call with
  | .saveEscalation conflict escalation createdAt writes =>
      if (encode escalation.proof).isOk ∧ writes.insert.takesEffect then
        some ⟨conflict, escalation, createdAt⟩
      else
        none
  | _ => none

/-- The label writes that `id` has been submitted. -/
def StoreLabel.Submits (label : StoreLabel RelayChainProof) (id : Int) :
    Prop :=
  ∃ write, label.call = .markEscalationSubmitted id write ∧
    write.takesEffect = true

/-- How many rows `trace` has stored in the table of escalations. -/
def savedCount (encode : RelayChainProof → Except SyncEngineError Bytes)
    (trace : List (StoreLabel RelayChainProof)) : Nat :=
  trace.countP fun label => (label.saves encode).isSome

section

variable {encode : RelayChainProof → Except SyncEngineError Bytes}
  {label : StoreLabel RelayChainProof}

theorem boxEvent_put {saved : SavedEscalation RelayChainProof} :
    label.call.boxEvent encode = some (.put saved) ↔
      label.saves encode = some saved := by
  obtain ⟨key, nonce, call⟩ := label
  cases call with
  | saveEscalation conflict escalation createdAt writes =>
      simp only [StoreCall.boxEvent, StoreLabel.saves,
        Option.ite_none_right_eq_some, Option.some_inj, BoxEvent.put.injEq]
  | markEscalationSubmitted id write =>
      simp [StoreCall.boxEvent, StoreLabel.saves]
  | _ => simp [StoreCall.boxEvent, StoreLabel.saves]

theorem boxEvent_take {id : Int} :
    label.call.boxEvent encode = some (.take id) ↔ label.Submits id := by
  obtain ⟨key, nonce, call⟩ := label
  cases call with
  | saveEscalation conflict escalation createdAt writes =>
      simp [StoreCall.boxEvent, StoreLabel.Submits]
  | markEscalationSubmitted other write =>
      simp only [StoreCall.boxEvent, StoreLabel.Submits,
        Option.ite_none_right_eq_some, Option.some_inj, BoxEvent.take.injEq,
        StoreCall.markEscalationSubmitted.injEq]
      constructor
      · rintro ⟨effective, rfl⟩
        exact ⟨write, ⟨rfl, rfl⟩, effective⟩
      · rintro ⟨_, ⟨rfl, rfl⟩, effective⟩
        exact ⟨effective, rfl⟩
  | _ => simp [StoreCall.boxEvent, StoreLabel.Submits]

theorem issued_run (trace : List (StoreLabel RelayChainProof)) :
    (Outbox.run (fun label => label.call.boxEvent encode) trace).issued =
      savedCount encode trace := by
  induction trace using List.reverseRecOn with
  | nil => rfl
  | append_singleton trace label induction =>
      rw [Outbox.run_snoc, savedCount, List.countP_append, List.countP_singleton,
        ← savedCount, ← induction]
      cases happens : label.call.boxEvent encode with
      | none =>
          have silent : label.saves encode = none := by
            cases stored : label.saves encode with
            | none => rfl
            | some saved => simp [boxEvent_put.mpr stored] at happens
          simp [silent, Outbox.step]
      | some event =>
          cases event with
          | put saved => simp [boxEvent_put.mp happens, Outbox.step]
          | take id =>
              have silent : label.saves encode = none := by
                cases stored : label.saves encode with
                | none => rfl
                | some saved => simp [boxEvent_put.mpr stored] at happens
              simp [silent, Outbox.step]

end

section

variable {cipher : Aes256Gcm} {crates : Crates}
  {serde : RmpSerde RelayChainProof} {store : StoreDb}
  {trace : List (StoreLabel RelayChainProof)}
  {guard : List (StoreLabel RelayChainProof) → StoreDb →
    StoreLabel RelayChainProof → Prop}

theorem run_boxed
    (run : (stores cipher crates serde.toVec .empty).RunUnder guard trace
      store) :
    store.Boxed serde
      (Outbox.run (fun label => label.call.boxEvent serde.toVec) trace) := by
  refine run.invariant (fun trace store => store.Boxed serde
    (Outbox.run (fun label => label.call.boxEvent serde.toVec) trace)) ?_ ?_
  · rintro _ rfl
    exact StoreDb.Boxed.start
  · rintro trace before label _ - boxed - rfl
    rw [Outbox.run_snoc]
    exact boxed.perform _ _ _

/-- Whatever the order of the scan, the pending escalations are those of the
box. -/
theorem StoreDb.Boxed.listed
    {box : Outbox (SavedEscalation RelayChainProof)}
    (boxed : store.Boxed serde box) {scan : List DisputeEscalationRow}
    (scanned : scan.Perm store.disputeEscalations) :
    ∃ listed, listPendingEscalations serde scan = .ok listed ∧
      listed.Perm (box.pending.map fun entry => entry.2.persisted entry.1) := by
  obtain ⟨entries, held, perm⟩ :=
    List.perm_comp_forall₂ (scanned.filter fun row => row.submitted = 0)
      boxed.pending
  refine ⟨_, mapM_ok_of_forall₂ (held.imp fun row entry found => found.read),
    perm.map _⟩

/-- In any run, on handles with keys or without and with writes refused or cut
off, the pending escalations are those stored and not marked since, each under
the number of its row, which the call that stored it answered. -/
theorem listPendingEscalations_exact
    (run : (stores cipher crates serde.toVec .empty).Run trace store)
    {scan : List DisputeEscalationRow}
    (scanned : scan.Perm store.disputeEscalations) :
    (∃ listed, StoreDb.listPendingEscalations serde scan = .ok listed ∧
      (listed.map PersistedEscalation.id).Nodup ∧
      ∀ persisted, persisted ∈ listed ↔
        ∃ before label after saved, trace = before ++ label :: after ∧
          label.saves serde.toVec = some saved ∧
          persisted =
            saved.persisted (savedCount serde.toVec before + 1) ∧
          ∀ later ∈ after, ¬ later.Submits persisted.id) ∧
    ∀ conflict escalation createdAt writes after id,
      EscalationDb.saveEscalation serde.toVec conflict escalation createdAt
          writes store.toEscalationDb = .returned after (.ok id) →
      id = savedCount serde.toVec trace + 1 := by
  have boxed := run_boxed run
  constructor
  · obtain ⟨listed, answered, perm⟩ := boxed.listed scanned
    refine ⟨listed, answered, ?_, ?_⟩
    · have ids := perm.map PersistedEscalation.id
      rw [List.map_map] at ids
      refine ids.nodup_iff.mpr (List.pairwise_map.mpr ?_)
      exact (Outbox.increasing_run trace).1.imp fun below => ne_of_lt below
    · intro persisted
      rw [perm.mem_iff, List.mem_map]
      constructor
      · rintro ⟨⟨number, saved⟩, member, rfl⟩
        obtain ⟨before, label, after, split, put, rfl, quiet⟩ :=
          (Outbox.mem_pending_run trace number saved).mp member
        refine ⟨before, label, after, saved, split, boxEvent_put.mp put,
          by rw [issued_run], ?_⟩
        intro later follows submits
        exact quiet later follows (boxEvent_take.mpr submits)
      · rintro ⟨before, label, after, saved, split, stored, rfl, quiet⟩
        refine ⟨(savedCount serde.toVec before + 1, saved),
          (Outbox.mem_pending_run trace _ saved).mpr ⟨before, label, after,
            split, boxEvent_put.mpr stored, by rw [issued_run], ?_⟩, rfl⟩
        intro later follows taken
        exact quiet later follows (boxEvent_take.mp taken)
  · intro conflict escalation createdAt writes after id answered
    rw [EscalationDb.saveEscalation_id answered, boxed.next, issued_run]

/-- Every escalation that the label saves was built from evidence whose proofs
hold. -/
def StoreLabel.Built (strkey : Bytes32 → String)
    (proves : RelayChainProof → Bytes32 → Prop)
    (label : StoreLabel RelayChainProof) : Prop :=
  ∀ conflict escalation createdAt writes,
    label.call = .saveEscalation conflict escalation createdAt writes →
    ∃ envelopeA envelopeB,
      buildEscalation strkey conflict envelopeA envelopeB = .ok escalation ∧
        proves envelopeA.proof envelopeA.messageId ∧
        proves envelopeB.proof envelopeB.messageId

/-- What is pending disputes one of its two envelopes, with a proof of that
one. -/
theorem pending_proved {strkey : Bytes32 → String}
    {proves : RelayChainProof → Bytes32 → Prop}
    (run : (stores cipher crates serde.toVec .empty).RunUnder
      (fun _ _ label => label.Built strkey proves) trace store)
    {scan : List DisputeEscalationRow}
    (scanned : scan.Perm store.disputeEscalations) :
    ∃ listed, StoreDb.listPendingEscalations serde scan = .ok listed ∧
      ∀ persisted ∈ listed,
        (persisted.escalation.txId = persisted.envelopeA ∨
          persisted.escalation.txId = persisted.envelopeB) ∧
        proves persisted.escalation.proof persisted.escalation.txId := by
  obtain ⟨listed, answered, perm⟩ := (run_boxed run).listed scanned
  refine ⟨listed, answered, ?_⟩
  intro persisted member
  obtain ⟨⟨number, saved⟩, pending, rfl⟩ :=
    List.mem_map.mp (perm.mem_iff.mp member)
  obtain ⟨before, label, after, split, put, -, -⟩ :=
    (Outbox.mem_pending_run trace number saved).mp pending
  obtain ⟨_, _, -, -, built⟩ := run.at_label split
  obtain ⟨key, nonce, call⟩ := label
  cases call with
  | saveEscalation conflict escalation createdAt writes =>
      obtain ⟨-, same⟩ := Option.ite_none_right_eq_some.mp put
      obtain rfl := BoxEvent.put.inj (Option.some_inj.mp same)
      obtain ⟨envelopeA, envelopeB, made, provesA, provesB⟩ :=
        built conflict escalation createdAt writes rfl
      obtain ⟨initiator, respondent, sides, -, first, second, rfl⟩ :=
        buildEscalation_ok made
      rcases sides with same | same
      · obtain ⟨rfl, rfl⟩ := Prod.mk.inj same
        exact ⟨.inl first, provesA⟩
      · obtain ⟨rfl, rfl⟩ := Prod.mk.inj same
        exact ⟨.inr second, provesB⟩
  | markEscalationSubmitted id write =>
      simp [StoreCall.boxEvent] at put
  | _ => simp [StoreCall.boxEvent] at put

end

/-! The escalation of the sample, saved twice; the first row is submitted. -/

def savedTwice : List (StoreLabel Bytes) := [storeEscalation, storeEscalation,
  ⟨none, sessionNonce, .markEscalationSubmitted 1 .applied⟩]

def sampleProofs : RmpSerde Bytes :=
  RmpSerde.only EscalationDb.sampleEscalation.proof

theorem listPendingEscalations_savedTwice :
    ∃ listed, StoreDb.listPendingEscalations sampleProofs
        (savedTwice.foldl (StoreLabel.perform sampleCipher sessionCrates
          sampleProofs.toVec) .empty).disputeEscalations = .ok listed ∧
      ∃ persisted ∈ listed, persisted.id = 2 ∧
        persisted.escalation = EscalationDb.sampleEscalation := by
  have created : (stores sampleCipher sessionCrates sampleProofs.toVec
      .empty).Run [] .empty := .start rfl
  have saved := (created.snoc (l := storeEscalation) rfl trivial).snoc
    (l := storeEscalation) rfl trivial
  have submitted := saved.snoc
    (l := ⟨none, sessionNonce, .markEscalationSubmitted 1 .applied⟩) rfl
    trivial
  obtain ⟨listed, answered, -, member⟩ :=
    (listPendingEscalations_exact submitted (List.Perm.refl _)).1
  have stored : storeEscalation.saves sampleProofs.toVec =
      some ⟨EscalationDb.sampleConflict, EscalationDb.sampleEscalation, 20⟩ :=
    rfl
  refine ⟨listed, answered, _, (member _).mpr ⟨[storeEscalation],
    storeEscalation, [⟨none, sessionNonce, .markEscalationSubmitted 1
      .applied⟩], _, rfl, stored, rfl, ?_⟩, by decide +kernel, rfl⟩
  rintro later follows ⟨write, called, -⟩
  obtain rfl := List.mem_singleton.mp follows
  have same : (1 : Int) = 2 := by
    have ids := (StoreCall.markEscalationSubmitted.inj called).1
    exact ids.trans (by decide +kernel)
  cases same

end StellarConduit
