import SyncEngine.Data.Behaviour
import SyncEngine.Settlement.Tracker

namespace StellarConduit

open Data

/-! The module `settlement.tla`. -/

def legalTransitions : SettlementStatus → List SettlementStatus
  | .queued => [.propagating, .failed]
  | .propagating => [.settled, .failed, .disputed]
  | .disputed => [.settled, .failed]
  | .failed => [.propagating]
  | .settled => []

/-- `Spec`, where a step of `LegalTransitions` starts from the current
state. -/
def settlementSpec : Spec SettlementStatus where
  init state := state = .queued
  next state next := next ∈ legalTransitions state

theorem mem_legalTransitions {current next : SettlementStatus} :
    next ∈ legalTransitions current ↔ current.canTransitionTo next = true := by
  cases current <;> cases next <;> decide

/-- `TerminalImmutability` -/
theorem terminal_settled : settlementSpec.Terminal .settled := by
  intro next legal
  cases legal

/-- The one step that the table has no way to make. -/
theorem stepOrStutter_queued {current : SettlementStatus} :
    settlementSpec.StepOrStutter current .queued ↔ current = .queued := by
  constructor
  · rintro (same | legal)
    · exact same
    · exact absurd rfl (SettlementStatus.ne_queued_of_canTransitionTo
        (mem_legalTransitions.mp legal))
  · rintro rfl
    exact Or.inl rfl

/-! The tracker under any calls. -/

inductive TrackerCall
  | track (messageId : Bytes32)
  | transition (messageId : Bytes32) (next : SettlementStatus)
  deriving DecidableEq

namespace SettlementTracker

/-- A call that fails leaves the tracker as it is. -/
def perform (tracker : SettlementTracker) : TrackerCall → SettlementTracker
  | .track messageId => tracker.track messageId
  | .transition messageId next => tracker.transitionIgnored messageId next

def performAll (tracker : SettlementTracker) (calls : List TrackerCall) :
    SettlementTracker :=
  calls.foldl perform tracker

/-- The statuses of `messageId` after every call, from its first appearance
on. -/
def trail (tracker : SettlementTracker) (calls : List TrackerCall)
    (messageId : Bytes32) : List SettlementStatus :=
  (calls.scanl perform tracker).filterMap fun state => state.status messageId

/-- No envelope is registered again once it has left `Queued`. -/
def TracksQueued (tracker : SettlementTracker) (calls : List TrackerCall)
    (messageId : Bytes32) : Prop :=
  ∀ before after, calls = before ++ .track messageId :: after →
    ∀ current, (tracker.performAll before).status messageId = some current →
      current = .queued

variable {tracker : SettlementTracker} {messageId : Bytes32}

theorem trail_nil (tracker : SettlementTracker) (messageId : Bytes32) :
    tracker.trail [] messageId = (tracker.status messageId).toList := by
  cases held : tracker.status messageId with
  | none => simp [trail, held]
  | some current => simp [trail, held]

theorem trail_cons (tracker : SettlementTracker) (call : TrackerCall)
    (rest : List TrackerCall) (messageId : Bytes32) :
    tracker.trail (call :: rest) messageId =
      (tracker.status messageId).toList ++
        (tracker.perform call).trail rest messageId := by
  cases held : tracker.status messageId with
  | none => simp [trail, List.scanl_cons, held]
  | some current => simp [trail, List.scanl_cons, held]

/-- A trail starts with the status that the tracker has, if it has one. -/
theorem trail_of_status {current : SettlementStatus}
    (held : tracker.status messageId = some current)
    (calls : List TrackerCall) :
    ∃ later, tracker.trail calls messageId = current :: later := by
  cases calls with
  | nil => exact ⟨[], by simp [trail_nil, held]⟩
  | cons call rest =>
      exact ⟨(tracker.perform call).trail rest messageId,
        by simp [trail_cons, held]⟩

/-- What a call makes of the status of an envelope. -/
theorem status_perform (tracker : SettlementTracker) (call : TrackerCall)
    (messageId : Bytes32) :
    (call = .track messageId ∧
        (tracker.perform call).status messageId = some .queued) ∨
      (call ≠ .track messageId ∧
        (tracker.status messageId = none →
          (tracker.perform call).status messageId = none) ∧
        ∀ current, tracker.status messageId = some current →
          ∃ next, (tracker.perform call).status messageId = some next ∧
            settlementSpec.StepOrStutter current next) := by
  cases call with
  | track other =>
      by_cases same : messageId = other
      · subst same
        exact Or.inl ⟨rfl, by simp [perform, status_track]⟩
      · right
        refine ⟨?_, ?_, ?_⟩
        · rintro made
          exact same (TrackerCall.track.inj made).symm
        · intro untracked
          simp [perform, status_track, same, untracked]
        · intro current held
          exact ⟨current, by simp [perform, status_track, same, held],
            Or.inl rfl⟩
  | transition other next =>
      right
      refine ⟨by simp, ?_, ?_⟩
      · intro untracked
        rw [perform, status_transitionIgnored]
        split
        · rename_i same
          simp [← same, untracked]
        · exact untracked
      · intro current held
        rw [perform, status_transitionIgnored]
        by_cases same : messageId = other
        · subst same
          cases legal : current.canTransitionTo next with
          | false => exact ⟨current, by simp [held, legal], Or.inl rfl⟩
          | true =>
              exact ⟨next, by simp [held, legal],
                Or.inr (mem_legalTransitions.mpr legal)⟩
        · exact ⟨current, by simp [same, held], Or.inl rfl⟩

theorem tracksQueued_cons {call : TrackerCall} {rest : List TrackerCall} :
    tracker.TracksQueued (call :: rest) messageId ↔
      (call = .track messageId → ∀ current,
        tracker.status messageId = some current → current = .queued) ∧
      (tracker.perform call).TracksQueued rest messageId := by
  constructor
  · intro queued
    constructor
    · rintro rfl
      exact queued [] rest rfl
    · intro before after split
      exact queued (call :: before) after (by rw [split, List.cons_append])
  · rintro ⟨first, remaining⟩ before after split
    cases before with
    | nil =>
        obtain ⟨rfl, rfl⟩ := List.cons.inj split
        exact first rfl
    | cons head before =>
        obtain ⟨rfl, rfl⟩ := List.cons.inj split
        exact remaining before after rfl

/-- The trail of an envelope is made of legal steps exactly when it is only
registered before it leaves `Queued`. -/
theorem isChain_trail (calls : List TrackerCall) :
    (tracker.trail calls messageId).IsChain settlementSpec.StepOrStutter ↔
      tracker.TracksQueued calls messageId := by
  induction calls generalizing tracker with
  | nil =>
      constructor
      · intro _ before after split
        simp at split
      · intro _
        rw [trail_nil]
        cases tracker.status messageId with
        | none => exact List.IsChain.nil
        | some current => exact List.IsChain.singleton current
  | cons call rest induction =>
      rw [tracksQueued_cons, trail_cons, ← induction]
      cases held : tracker.status messageId with
      | none => simp
      | some current =>
          rcases status_perform tracker call messageId with
            ⟨made, queued⟩ | ⟨other, -, stepped⟩
          · obtain ⟨later, trailed⟩ := trail_of_status queued rest
            simp only [Option.toList_some, List.singleton_append, trailed,
              List.isChain_cons_cons, stepOrStutter_queued]
            simp [made]
          · obtain ⟨next, nextHeld, step⟩ := stepped current held
            obtain ⟨later, trailed⟩ := trail_of_status nextHeld rest
            simp only [Option.toList_some, List.singleton_append, trailed,
              List.isChain_cons_cons]
            simp [other, step]

/-- An envelope appears with its registration. -/
theorem head_trail (untracked : tracker.status messageId = none)
    (calls : List TrackerCall) :
    ∀ first ∈ (tracker.trail calls messageId).head?, first = .queued := by
  induction calls generalizing tracker with
  | nil => simp [trail_nil, untracked]
  | cons call rest induction =>
      rw [trail_cons, untracked, Option.toList_none, List.nil_append]
      rcases status_perform tracker call messageId with
        ⟨-, queued⟩ | ⟨-, still, -⟩
      · obtain ⟨later, trailed⟩ := trail_of_status queued rest
        simp [trailed]
      · exact induction (still untracked)

/-- A tracker that starts empty follows the specification on an envelope, and
keeps it settled once it is, exactly when the envelope is never registered
again after it has left `Queued`. -/
theorem refines_spec_iff (calls : List TrackerCall) (messageId : Bytes32) :
    (settlementSpec.Allows (new.trail calls messageId) ∧
      ∀ before after,
        new.trail calls messageId = before ++ .settled :: after →
        ∀ later ∈ after, later = .settled) ↔
      ∀ before after, calls = before ++ .track messageId :: after →
        ∀ current, (new.performAll before).status messageId = some current →
          current = .queued := by
  constructor
  · intro refines
    exact (isChain_trail calls).mp refines.1.steps
  · intro queued
    have allows : settlementSpec.Allows (new.trail calls messageId) :=
      ⟨head_trail (status_new messageId) calls,
        (isChain_trail calls).mpr queued⟩
    exact ⟨allows, fun _ _ => allows.stays terminal_settled⟩

/-- A settled envelope registered once more is queued again. -/
theorem settled_queued_again :
    let messageId : Bytes32 := Vector.replicate 32 1
    let calls : List TrackerCall :=
      [.track messageId, .transition messageId .propagating,
        .transition messageId .settled, .track messageId]
    new.trail calls messageId = [.queued, .propagating, .settled, .queued] ∧
      ¬settlementSpec.Allows (new.trail calls messageId) := by
  intro messageId calls
  have trailed : new.trail calls messageId =
      [.queued, .propagating, .settled, .queued] := by
    decide +kernel
  refine ⟨trailed, ?_⟩
  rw [trailed]
  intro allows
  have last := (List.isChain_cons_cons.mp
    (List.isChain_cons_cons.mp
      (List.isChain_cons_cons.mp allows.steps).2).2).1
  exact absurd (stepOrStutter_queued.mp last) (by decide)

end SettlementTracker

end StellarConduit
