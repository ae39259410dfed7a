import SyncEngine.Conflict.Detector
import SyncEngine.Storage.Db

namespace StellarConduit

open Data

structure DisputeEscalation (RelayChainProof : Type) where
  initiator : String
  respondent : String
  txId : Bytes32
  proof : RelayChainProof

structure DisputeEscalationRow where
  id : Int
  sourceAccount : String
  sequence : Int64
  envelopeA : Bytes
  envelopeB : Bytes
  initiator : String
  respondent : String
  txId : Bytes
  proofBytes : Bytes
  createdAt : Int64
  submitted : Int64
  deriving DecidableEq

/-- The database with its table `dispute_escalations`, in order of insertion. -/
structure EscalationDb where
  db : Database
  disputeEscalations : List DisputeEscalationRow
  deriving DecidableEq

/-- How the statements of `save_escalation` end: its own and those of the two
calls to `set_settlement_status`. -/
structure EscalationWrites where
  insert : Write
  first : StatusWrites
  second : StatusWrites

namespace EscalationWrites

/-- The status of the first envelope is written. -/
def reachesA (writes : EscalationWrites) : Prop :=
  writes.insert = .applied ∧ writes.first.replace.takesEffect = true

def reachesB (writes : EscalationWrites) : Prop :=
  writes.insert = .applied ∧
    (writes.first.replace = .applied ∧ writes.first.append = .applied) ∧
    writes.second.replace.takesEffect = true

instance (writes : EscalationWrites) : Decidable writes.reachesA :=
  inferInstanceAs (Decidable (_ ∧ _))

instance (writes : EscalationWrites) : Decidable writes.reachesB :=
  inferInstanceAs (Decidable (_ ∧ _))

end EscalationWrites

namespace EscalationDb

/-- The next `AUTOINCREMENT` id; no row of this table is ever deleted. -/
def nextEscalationId (store : EscalationDb) : Int :=
  store.disputeEscalations.foldl (fun largest row => max largest row.id) 0 + 1

variable {RelayChainProof : Type}

def escalationRow (store : EscalationDb) (conflict : Conflict)
    (escalation : DisputeEscalation RelayChainProof) (proofBytes : Bytes)
    (createdAt : UInt64) : DisputeEscalationRow where
  id := store.nextEscalationId
  sourceAccount := conflict.sourceAccount
  sequence := conflict.sequence
  envelopeA := conflict.envelopeA.toVec
  envelopeB := conflict.envelopeB.toVec
  initiator := escalation.initiator
  respondent := escalation.respondent
  txId := escalation.txId.toVec
  proofBytes := proofBytes
  createdAt := createdAt.toInt64
  submitted := 0

def insertEscalation (store : EscalationDb) (row : DisputeEscalationRow) :
    EscalationDb :=
  { store with disputeEscalations := store.disputeEscalations ++ [row] }

def setSettlementStatus (store : EscalationDb) (messageId : Bytes32)
    (status : SettlementStatus) (updatedAt : UInt64) (writes : StatusWrites) :
    Outcome EscalationDb (Except SyncEngineError Unit) :=
  (SyncEngineDb.setSettlementStatus messageId status updatedAt writes
    store.db).within fun db => { store with db := db }

/-- `encode` is `rmp_serde::to_vec` at `RelayChainProof`. -/
def saveEscalation (encode : RelayChainProof → Except SyncEngineError Bytes)
    (conflict : Conflict) (escalation : DisputeEscalation RelayChainProof)
    (createdAt : UInt64) (writes : EscalationWrites) (store : EscalationDb) :
    Outcome EscalationDb (Except SyncEngineError Int) :=
  match encode escalation.proof with
  | .error error => .returned store (.error error)
  | .ok proofBytes =>
      let row := store.escalationRow conflict escalation proofBytes createdAt
      (writes.insert.run .connectionError
          (fun store => .ok (store.insertEscalation row)) store).tryBind
        fun store _ =>
          (store.setSettlementStatus conflict.envelopeA .disputed createdAt
              writes.first).tryBind fun store _ =>
            (store.setSettlementStatus conflict.envelopeB .disputed createdAt
                writes.second).tryBind fun store _ =>
              .returned store (.ok row.id)

/-! What a call leaves behind, however it ends. -/

theorem statusText_setSettlementStatus (store : EscalationDb)
    (messageId : Bytes32) (status : SettlementStatus) (updatedAt : UInt64)
    (writes : StatusWrites) (key : Bytes) :
    (store.setSettlementStatus messageId status updatedAt
        writes).durable.db.statusText key =
      if writes.replace.takesEffect = true ∧ key = messageId.toVec then
        some status.asStr
      else store.db.statusText key := by
  rw [setSettlementStatus, Outcome.durable_within]
  exact SyncEngineDb.statusText_setSettlementStatus _ _ _ _ _ _

@[simp] theorem disputeEscalations_setSettlementStatus (store : EscalationDb)
    (messageId : Bytes32) (status : SettlementStatus) (updatedAt : UInt64)
    (writes : StatusWrites) :
    (store.setSettlementStatus messageId status updatedAt
        writes).durable.disputeEscalations = store.disputeEscalations := by
  rw [setSettlementStatus, Outcome.durable_within]

theorem durable_tryBind_setSettlementStatus (store : EscalationDb)
    (messageId : Bytes32) (status : SettlementStatus) (updatedAt : UInt64)
    (writes : StatusWrites)
    (next : EscalationDb → Unit → Outcome EscalationDb
      (Except SyncEngineError Int)) :
    ((store.setSettlementStatus messageId status updatedAt writes).tryBind
        next).durable =
      if writes.replace = .applied ∧ writes.append = .applied then
        (next (store.setSettlementStatus messageId status updatedAt
          writes).durable ()).durable
      else (store.setSettlementStatus messageId status updatedAt
        writes).durable := by
  have continues := SyncEngineDb.setSettlementStatus_continues messageId status
    updatedAt writes store.db
  dsimp only at continues
  rw [setSettlementStatus]
  split at continues
  · rename_i both
    rw [continues, if_pos both]
    rfl
  · rename_i stopped
    rw [if_neg stopped]
    rcases continues with crashed | failed
    · rw [crashed]
      rfl
    · rw [failed]
      rfl

variable {encode : RelayChainProof → Except SyncEngineError Bytes}
  {escalation : DisputeEscalation RelayChainProof} {writes : EscalationWrites}
  (conflict : Conflict) (createdAt : UInt64) (store : EscalationDb)

theorem saveEscalation_unchanged
    (stopped : ∀ proofBytes, encode escalation.proof = .ok proofBytes →
      writes.insert.takesEffect = false) :
    (saveEscalation encode conflict escalation createdAt writes
      store).durable = store := by
  unfold saveEscalation
  cases encoded : encode escalation.proof with
  | error error => rfl
  | ok proofBytes =>
      have refused := stopped proofBytes encoded
      dsimp only
      cases insert : writes.insert with
      | applied => simp [insert, Write.takesEffect] at refused
      | refused => rfl
      | lostBefore => rfl
      | lostAfter => simp [insert, Write.takesEffect] at refused

theorem saveEscalation_inserted {proofBytes : Bytes}
    (encoded : encode escalation.proof = .ok proofBytes)
    (inserted : writes.insert.takesEffect = true) :
    (saveEscalation encode conflict escalation createdAt writes
        store).durable.disputeEscalations =
      store.disputeEscalations ++
        [store.escalationRow conflict escalation proofBytes createdAt] ∧
    ∀ key,
      (saveEscalation encode conflict escalation createdAt writes
          store).durable.db.statusText key =
        if (writes.reachesA ∧ key = conflict.envelopeA.toVec) ∨
            (writes.reachesB ∧ key = conflict.envelopeB.toVec) then
          some SettlementStatus.disputed.asStr
        else store.db.statusText key := by
  unfold saveEscalation
  rw [encoded]
  dsimp only
  cases insert : writes.insert with
  | refused => simp [insert, Write.takesEffect] at inserted
  | lostBefore => simp [insert, Write.takesEffect] at inserted
  | lostAfter =>
      have notA : ¬ writes.reachesA := by
        simp [EscalationWrites.reachesA, insert]
      have notB : ¬ writes.reachesB := by
        simp [EscalationWrites.reachesB, insert]
      simp [Write.run, notA, notB, insertEscalation]
  | applied =>
      simp only [Write.run, Outcome.tryBind_ok]
      rw [durable_tryBind_setSettlementStatus]
      have reachesA : writes.reachesA ↔
          writes.first.replace.takesEffect = true := by
        simp [EscalationWrites.reachesA, insert]
      by_cases continued : writes.first.replace = .applied ∧
          writes.first.append = .applied
      · have reachesB : writes.reachesB ↔
            writes.second.replace.takesEffect = true := by
          simp [EscalationWrites.reachesB, insert, continued]
        rw [if_pos continued, durable_tryBind_setSettlementStatus]
        simp only [Outcome.durable_returned, ite_self, reachesA, reachesB]
        refine ⟨by simp [insertEscalation], fun key => ?_⟩
        rw [statusText_setSettlementStatus, statusText_setSettlementStatus]
        by_cases second : writes.second.replace.takesEffect = true ∧
            key = conflict.envelopeB.toVec
        · rw [if_pos second, if_pos (Or.inr second)]
        · rw [if_neg second]
          simp only [second, or_false]
          rfl
      · have notB : ¬ writes.reachesB := by
          simp [EscalationWrites.reachesB, insert, continued]
        rw [if_neg continued]
        simp only [reachesA, notB, false_and, or_false]
        refine ⟨by simp [insertEscalation], fun key => ?_⟩
        rw [statusText_setSettlementStatus]
        rfl

/-- An escalation is stored together with both disputes or not at all, and
takes to `disputed` only what may go there. -/
def EscalatesSoundly (before after : EscalationDb) (conflict : Conflict)
    (row : DisputeEscalationRow → Prop) : Prop :=
  (after = before ∨
    ((∃ stored ∈ after.disputeEscalations, row stored) ∧
      after.db.statusText conflict.envelopeA.toVec =
        some SettlementStatus.disputed.asStr ∧
      after.db.statusText conflict.envelopeB.toVec =
        some SettlementStatus.disputed.asStr)) ∧
  ∀ messageId ∈ [conflict.envelopeA, conflict.envelopeB], ∀ text,
    before.db.statusText messageId.toVec = some text →
    text ≠ SettlementStatus.disputed.asStr →
    after.db.statusText messageId.toVec =
      some SettlementStatus.disputed.asStr →
    ∃ current : SettlementStatus, text = current.asStr ∧
      current.canTransitionTo .disputed = true

/-- `messageId` is one of the envelopes whose status `writes` get to. -/
def Reached (writes : EscalationWrites) (conflict : Conflict)
    (messageId : Bytes32) : Prop :=
  (writes.reachesA ∧ messageId = conflict.envelopeA) ∨
    (writes.reachesB ∧ messageId = conflict.envelopeB)

theorem EscalatesSoundly.refl (row : DisputeEscalationRow → Prop) :
    EscalatesSoundly store store conflict row := by
  refine ⟨Or.inl rfl, ?_⟩
  intro messageId _ text held differs disputed
  exact absurd (Option.some_inj.mp (held.symm.trans disputed)) differs

/-- A call that stored its row and wrote `disputed` for the envelopes
`written`. -/
theorem escalatesSoundly_iff {before after : EscalationDb}
    {row : DisputeEscalationRow → Prop} {stored : DisputeEscalationRow}
    {written : Bytes32 → Prop}
    (inserted : after.disputeEscalations =
      before.disputeEscalations ++ [stored]) (isRow : row stored)
    (disputes : ∀ messageId, written messageId →
      after.db.statusText messageId.toVec =
        some SettlementStatus.disputed.asStr)
    (keeps : ∀ messageId, ¬ written messageId →
      after.db.statusText messageId.toVec =
        before.db.statusText messageId.toVec) :
    EscalatesSoundly before after conflict row ↔
      ∀ messageId ∈ [conflict.envelopeA, conflict.envelopeB],
        before.db.statusText messageId.toVec =
            some SettlementStatus.disputed.asStr ∨
          (written messageId ∧
            (before.db.statusText messageId.toVec = none ∨
              before.db.statusText messageId.toVec =
                some SettlementStatus.propagating.asStr)) := by
  constructor
  · rintro ⟨whole, legal⟩
    have both : ∀ messageId ∈ [conflict.envelopeA, conflict.envelopeB],
        after.db.statusText messageId.toVec =
          some SettlementStatus.disputed.asStr := by
      rcases whole with same | ⟨_, first, second⟩
      · rw [same] at inserted
        simp at inserted
      · simp [first, second]
    intro messageId member
    by_cases already : before.db.statusText messageId.toVec =
        some SettlementStatus.disputed.asStr
    · exact Or.inl already
    · have isWritten : written messageId := by
        by_contra unwritten
        exact already ((keeps messageId unwritten).symm.trans
          (both messageId member))
      refine Or.inr ⟨isWritten, ?_⟩
      cases held : before.db.statusText messageId.toVec with
      | none => exact Or.inl rfl
      | some text =>
          have differs : text ≠ SettlementStatus.disputed.asStr := by
            rintro rfl
            exact already held
          obtain ⟨current, rfl, allowed⟩ := legal messageId member text held
            differs (both messageId member)
          rw [SettlementStatus.canTransitionTo_disputed.mp allowed]
          exact Or.inr rfl
  · intro condition
    have both : ∀ messageId ∈ [conflict.envelopeA, conflict.envelopeB],
        after.db.statusText messageId.toVec =
          some SettlementStatus.disputed.asStr := by
      intro messageId member
      by_cases isWritten : written messageId
      · exact disputes messageId isWritten
      · rcases condition messageId member with already | ⟨reached, _⟩
        · rw [keeps messageId isWritten, already]
        · exact absurd reached isWritten
    refine ⟨Or.inr ⟨⟨stored, by simp [inserted], isRow⟩,
      both _ (by simp), both _ (by simp)⟩, ?_⟩
    intro messageId member text held differs _
    rcases condition messageId member with already | ⟨_, absent | propagating⟩
    · exact absurd (Option.some_inj.mp (held.symm.trans already)) differs
    · rw [held] at absent
      cases absent
    · exact ⟨.propagating, Option.some_inj.mp (held.symm.trans propagating),
        rfl⟩

/-- `save_escalation` meets the state machine and is all or nothing just when
it does not get to store its row, or every envelope is disputed before, or is
untracked or propagating and has its status written. -/
theorem saveEscalation_sound_iff
    (encode : RelayChainProof → Except SyncEngineError Bytes)
    (conflict : Conflict) (escalation : DisputeEscalation RelayChainProof)
    (createdAt : UInt64) (writes : EscalationWrites) (store : EscalationDb) :
    EscalatesSoundly store
        (saveEscalation encode conflict escalation createdAt writes
          store).durable conflict
        (fun row => ∃ proofBytes, encode escalation.proof = .ok proofBytes ∧
          row = store.escalationRow conflict escalation proofBytes
            createdAt) ↔
      (∀ proofBytes, encode escalation.proof = .ok proofBytes →
        writes.insert.takesEffect = false) ∨
      ∀ messageId ∈ [conflict.envelopeA, conflict.envelopeB],
        store.db.statusText messageId.toVec =
            some SettlementStatus.disputed.asStr ∨
          (Reached writes conflict messageId ∧
            (store.db.statusText messageId.toVec = none ∨
              store.db.statusText messageId.toVec =
                some SettlementStatus.propagating.asStr)) := by
  by_cases stopped : ∀ proofBytes, encode escalation.proof = .ok proofBytes →
      writes.insert.takesEffect = false
  · rw [saveEscalation_unchanged conflict createdAt store stopped]
    exact iff_of_true (EscalatesSoundly.refl _ _ _) (Or.inl stopped)
  · obtain ⟨proofBytes, encoded, inserted⟩ : ∃ proofBytes,
        encode escalation.proof = .ok proofBytes ∧
          writes.insert.takesEffect = true := by
      simpa using stopped
    obtain ⟨rows, texts⟩ :=
      saveEscalation_inserted conflict createdAt store encoded inserted
    simp only [stopped, false_or]
    apply escalatesSoundly_iff conflict rows ⟨proofBytes, encoded, rfl⟩
    · intro messageId reached
      rw [texts, if_pos]
      simpa [Reached] using reached
    · intro messageId unreached
      rw [texts, if_neg]
      simpa [Reached] using unreached

/-! Two envelopes, one of them settled, and the same two propagating when the
process dies between the row and the first status. -/

def sampleConflict : Conflict :=
  ⟨"GA", 7, Vector.replicate 32 1, Vector.replicate 32 2⟩

def sampleEscalation : DisputeEscalation Bytes :=
  ⟨"GI", "GR", Vector.replicate 32 1, [1, 2]⟩

def sampleStore (first : SettlementStatus) : EscalationDb where
  db := (Database.empty.replaceStatus sampleConflict.envelopeA.toVec first
    10).replaceStatus sampleConflict.envelopeB.toVec .propagating 10
  disputeEscalations := []

def sampleSaved (first : SettlementStatus) (insert : Write) : EscalationDb :=
  (saveEscalation .ok sampleConflict sampleEscalation 20
    ⟨insert, ⟨.served, .applied, .applied⟩, ⟨.served, .applied, .applied⟩⟩
    (sampleStore first)).durable

theorem saveEscalation_unsound :
    ¬ EscalatesSoundly (sampleStore .settled) (sampleSaved .settled .applied)
        sampleConflict (fun _ => True) ∧
      ¬ EscalatesSoundly (sampleStore .propagating)
        (sampleSaved .propagating .lostAfter) sampleConflict
        (fun _ => True) := by
  constructor
  · rintro ⟨_, legal⟩
    obtain ⟨current, same, allowed⟩ := legal sampleConflict.envelopeA
      (by simp) "settled" (by decide +kernel) (by decide +kernel)
      (by decide +kernel)
    rw [SettlementStatus.canTransitionTo_disputed.mp allowed] at same
    exact absurd same (by decide +kernel)
  · rintro ⟨same | ⟨_, disputed, _⟩, _⟩
    · exact absurd same (by decide +kernel)
    · exact absurd disputed (by decide +kernel)

end EscalationDb

end StellarConduit
