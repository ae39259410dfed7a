import SyncEngine.Data.HashMap
import SyncEngine.Errors

namespace StellarConduit

open Data

inductive SettlementStatus
  | queued
  | propagating
  | settled
  | failed
  | disputed
  deriving DecidableEq, Repr

namespace SettlementStatus

def asStr : SettlementStatus → String
  | .queued => "queued"
  | .propagating => "propagating"
  | .settled => "settled"
  | .failed => "failed"
  | .disputed => "disputed"

def canTransitionTo : SettlementStatus → SettlementStatus → Bool
  | .queued, .propagating => true
  | .queued, .failed => true
  | .propagating, .settled => true
  | .propagating, .failed => true
  | .propagating, .disputed => true
  | .disputed, .settled => true
  | .disputed, .failed => true
  | .failed, .propagating => true
  | _, _ => false

def fromStr (text : String) : Except SyncEngineError SettlementStatus :=
  match text with
  | "queued" => .ok .queued
  | "propagating" => .ok .propagating
  | "settled" => .ok .settled
  | "failed" => .ok .failed
  | "disputed" => .ok .disputed
  | other => .error (.invalidStateTransition other "<unknown>")

@[simp] theorem fromStr_asStr (status : SettlementStatus) :
    fromStr status.asStr = .ok status := by
  cases status <;> rfl

theorem asStr_injective {first second : SettlementStatus}
    (same : first.asStr = second.asStr) : first = second := by
  have parsed : fromStr first.asStr = fromStr second.asStr :=
    congrArg fromStr same
  simpa using parsed

@[simp] theorem asStr_inj {first second : SettlementStatus} :
    first.asStr = second.asStr ↔ first = second :=
  ⟨asStr_injective, congrArg asStr⟩

theorem fromStr_eq_ok {text : String} {status : SettlementStatus} :
    fromStr text = .ok status ↔ text = status.asStr := by
  constructor
  · intro parsed
    unfold fromStr at parsed
    split at parsed <;> cases parsed <;> rfl
  · rintro rfl
    exact fromStr_asStr status

theorem ne_queued_of_canTransitionTo {current next : SettlementStatus}
    (legal : current.canTransitionTo next = true) : next ≠ .queued := by
  rintro rfl
  cases current <;> simp [canTransitionTo] at legal

theorem ne_settled_of_canTransitionTo {current next : SettlementStatus}
    (legal : current.canTransitionTo next = true) : current ≠ .settled := by
  rintro rfl
  cases next <;> simp [canTransitionTo] at legal

theorem ne_of_canTransitionTo {current next : SettlementStatus}
    (legal : current.canTransitionTo next = true) : next ≠ current := by
  rintro rfl
  cases next <;> simp [canTransitionTo] at legal

theorem canTransitionTo_failed {current : SettlementStatus} :
    current.canTransitionTo .failed = true ↔
      current ≠ .settled ∧ current ≠ .failed := by
  cases current <;> simp [canTransitionTo]

theorem canTransitionTo_disputed {current : SettlementStatus} :
    current.canTransitionTo .disputed = true ↔ current = .propagating := by
  cases current <;> simp [canTransitionTo]

end SettlementStatus

structure SettlementTracker where
  statuses : HashMap Bytes32 SettlementStatus

namespace SettlementTracker

def new : SettlementTracker := ⟨∅⟩

def track (tracker : SettlementTracker) (messageId : Bytes32) :
    SettlementTracker :=
  ⟨tracker.statuses.insert messageId .queued⟩

def restore (tracker : SettlementTracker) (messageId : Bytes32)
    (status : SettlementStatus) : SettlementTracker :=
  ⟨tracker.statuses.insert messageId status⟩

def status (tracker : SettlementTracker) (messageId : Bytes32) :
    Option SettlementStatus :=
  tracker.statuses.lookup messageId

def transition (tracker : SettlementTracker) (messageId : Bytes32)
    (next : SettlementStatus) : Except SyncEngineError SettlementTracker :=
  match tracker.statuses.lookup messageId with
  | none => .error (.envelopeNotFound (hexEncode messageId))
  | some current =>
      if current.canTransitionTo next then
        .ok ⟨tracker.statuses.insert messageId next⟩
      else
        .error (.invalidStateTransition current.asStr next.asStr)

/-- A transition whose error is only logged. -/
def transitionIgnored (tracker : SettlementTracker) (messageId : Bytes32)
    (next : SettlementStatus) : SettlementTracker :=
  match tracker.transition messageId next with
  | .ok advanced => advanced
  | .error _ => tracker

@[simp] theorem status_new (messageId : Bytes32) :
    new.status messageId = none := by
  simp [new, status]

theorem status_restore (tracker : SettlementTracker)
    (messageId other : Bytes32) (next : SettlementStatus) :
    (tracker.restore messageId next).status other =
      if other = messageId then some next else tracker.status other :=
  HashMap.lookup_insert_ite _ _ _ _

theorem status_track (tracker : SettlementTracker)
    (messageId other : Bytes32) :
    (tracker.track messageId).status other =
      if other = messageId then some .queued else tracker.status other :=
  HashMap.lookup_insert_ite _ _ _ _

theorem transition_of_legal {tracker : SettlementTracker}
    {messageId : Bytes32} {current next : SettlementStatus}
    (held : tracker.status messageId = some current)
    (legal : current.canTransitionTo next = true) :
    tracker.transition messageId next =
      .ok (tracker.restore messageId next) := by
  have found : tracker.statuses.lookup messageId = some current := held
  simp [transition, found, legal, restore]

theorem transition_of_illegal {tracker : SettlementTracker}
    {messageId : Bytes32} {current next : SettlementStatus}
    (held : tracker.status messageId = some current)
    (illegal : current.canTransitionTo next = false) :
    tracker.transition messageId next =
      .error (.invalidStateTransition current.asStr next.asStr) := by
  have found : tracker.statuses.lookup messageId = some current := held
  simp [transition, found, illegal]

theorem status_transitionIgnored (tracker : SettlementTracker)
    (messageId other : Bytes32) (next : SettlementStatus) :
    (tracker.transitionIgnored messageId next).status other =
      if other = messageId then
        (tracker.status messageId).map fun current =>
          if current.canTransitionTo next then next else current
      else tracker.status other := by
  by_cases same : other = messageId
  · subst same
    rw [if_pos rfl, transitionIgnored]
    cases held : tracker.status other with
    | none =>
        have missing : tracker.statuses.lookup other = none := held
        simp [transition, missing, held]
    | some current =>
        cases legal : current.canTransitionTo next with
        | false => simp [transition_of_illegal held legal, held, legal]
        | true =>
            simp [transition_of_legal held legal, status_restore, legal]
  · rw [if_neg same, transitionIgnored]
    cases held : tracker.status messageId with
    | none =>
        have missing : tracker.statuses.lookup messageId = none := held
        simp [transition, missing]
    | some current =>
        cases legal : current.canTransitionTo next with
        | false => simp [transition_of_illegal held legal]
        | true => simp [transition_of_legal held legal, status_restore, same]

end SettlementTracker

end StellarConduit
