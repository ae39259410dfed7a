import SyncEngine.Settlement.Tracker

namespace StellarConduit

open Data

/-! The runtime checker of `settlement/invariants`. -/

inductive InvariantViolation
  | terminalStateMutated (messageId : Bytes32)
      (currentStatus attemptedStatus : SettlementStatus)
  | stuckState (messageId : Bytes32) (status : SettlementStatus)
      (legalTransitions : List SettlementStatus)
  | unknownState (messageId : Bytes32) (status : SettlementStatus)
  | duplicateEntry (messageId : Bytes32)
  | unreachableState (messageId : Bytes32) (status : SettlementStatus)
      (transitionHistory : List SettlementStatus)
  deriving DecidableEq

def getLegalTransitions : SettlementStatus → List SettlementStatus
  | .queued => [.propagating, .failed]
  | .propagating => [.settled, .failed, .disputed]
  | .disputed => [.settled, .failed]
  | .failed => [.propagating]
  | .settled => []

/-- The four checks that one round of the loop makes of a status. The third is
a match without effect. -/
def checkStatus (messageId : Bytes32) (status : SettlementStatus) :
    Except InvariantViolation Unit :=
  if status = .settled then
    match getLegalTransitions status with
    | [] => .ok ()
    | attempted :: _ =>
        .error (.terminalStateMutated messageId status attempted)
  else if getLegalTransitions status = [] then
    .error (.stuckState messageId status [])
  else if status = .disputed ∧ status ∉ getLegalTransitions .propagating then
    .error (.unreachableState messageId status [])
  else
    .ok ()

def checkEntries (seen : Finset Bytes32) :
    List (Sigma fun _ : Bytes32 => SettlementStatus) →
      Except InvariantViolation Unit
  | [] => .ok ()
  | ⟨messageId, status⟩ :: rest =>
      if messageId ∈ seen then
        .error (.duplicateEntry messageId)
      else
        (checkStatus messageId status).bind fun _ =>
          checkEntries (insert messageId seen) rest

/-- `tracker.get_all_entries()`, in the order of the iteration. -/
def SettlementTracker.getAllEntries (tracker : SettlementTracker)
    (iteration : HashMap.Iteration Bytes32 SettlementStatus) :
    List (Sigma fun _ : Bytes32 => SettlementStatus) :=
  (iteration.list tracker.statuses).entries

def checkInvariants
    (iteration : HashMap.Iteration Bytes32 SettlementStatus)
    (tracker : SettlementTracker) : Except InvariantViolation Unit :=
  checkEntries ∅ (tracker.getAllEntries iteration)

/-! What the checker can find. -/

/-- The table has a way out of every status but `Settled`, and one into
`Disputed`, so no status fails its checks. -/
theorem checkStatus_ok (messageId : Bytes32) (status : SettlementStatus) :
    checkStatus messageId status = .ok () := by
  cases status <;> rfl

/-- Of the errors only `DuplicateEntry` can occur. -/
theorem checkEntries_ok_iff (seen : Finset Bytes32)
    (entries : List (Sigma fun _ : Bytes32 => SettlementStatus)) :
    checkEntries seen entries = .ok () ↔
      entries.NodupKeys ∧ ∀ messageId ∈ entries.keys, messageId ∉ seen := by
  induction entries generalizing seen with
  | nil => simp [checkEntries]
  | cons entry rest induction =>
      obtain ⟨messageId, status⟩ := entry
      rw [checkEntries, List.nodupKeys_cons, List.keys_cons,
        List.forall_mem_cons]
      by_cases known : messageId ∈ seen
      · simp [known]
      · rw [if_neg known, checkStatus_ok]
        show checkEntries (insert messageId seen) rest = .ok () ↔ _
        rw [induction]
        simp only [Finset.mem_insert, not_or]
        constructor
        · rintro ⟨distinct, fresh⟩
          refine ⟨⟨?_, distinct⟩, known, fun other member =>
            (fresh other member).2⟩
          intro again
          exact (fresh messageId again).1 rfl
        · rintro ⟨⟨unused, distinct⟩, -, fresh⟩
          refine ⟨distinct, fun other member => ⟨?_, fresh other member⟩⟩
          rintro rfl
          exact unused member

/-- A tracker has no entry twice, so none of the error branches is ever
taken. -/
theorem checkInvariants_ok
    (iteration : HashMap.Iteration Bytes32 SettlementStatus)
    (tracker : SettlementTracker) :
    checkInvariants iteration tracker = .ok () := by
  apply (checkEntries_ok_iff _ _).mpr
  exact ⟨(iteration.list tracker.statuses).nodupKeys, by simp⟩

/-! Runs of the tracker, and the changes of status that its invariants rule
out. -/

inductive TrackerOperation
  | track (messageId : Bytes32)
  | transition (messageId : Bytes32) (next : SettlementStatus)
  | restore (messageId : Bytes32) (status : SettlementStatus)
  deriving DecidableEq

namespace SettlementTracker

def operate (tracker : SettlementTracker) :
    TrackerOperation → SettlementTracker
  | .track messageId => tracker.track messageId
  | .transition messageId next => tracker.transitionIgnored messageId next
  | .restore messageId status => tracker.restore messageId status

def operateAll (tracker : SettlementTracker)
    (operations : List TrackerOperation) : SettlementTracker :=
  operations.foldl operate tracker

end SettlementTracker

/-- A status changed from `Settled` to something else, or to `Disputed` from
something other than `Propagating`. -/
def ForbiddenChange (current next : SettlementStatus) : Prop :=
  current ≠ next ∧
    (current = .settled ∨ next = .disputed ∧ current ≠ .propagating)

instance (current next : SettlementStatus) :
    Decidable (ForbiddenChange current next) :=
  inferInstanceAs (Decidable (_ ∧ _))

/-- Some operation made such a change. -/
def ChangesForbidden (operations : List TrackerOperation) : Prop :=
  ∃ before operation after, operations = before ++ operation :: after ∧
    ∃ messageId current next,
      (SettlementTracker.new.operateAll before).status messageId =
        some current ∧
      ((SettlementTracker.new.operateAll before).operate operation).status
        messageId = some next ∧
      ForbiddenChange current next

/-- The status that an operation writes without looking at the one there
is. -/
def TrackerOperation.overwrites :
    TrackerOperation → Option (Bytes32 × SettlementStatus)
  | .track messageId => some (messageId, .queued)
  | .transition _ _ => none
  | .restore messageId status => some (messageId, status)

theorem TrackerOperation.status_operate {operation : TrackerOperation}
    {target : Bytes32} {next : SettlementStatus}
    (overwrites : operation.overwrites = some (target, next))
    (tracker : SettlementTracker) (messageId : Bytes32) :
    (tracker.operate operation).status messageId =
      if messageId = target then some next
      else tracker.status messageId := by
  cases operation with
  | track other =>
      obtain ⟨rfl, rfl⟩ := Prod.mk.inj (Option.some_inj.mp overwrites)
      exact SettlementTracker.status_track _ _ _
  | restore other status =>
      obtain ⟨rfl, rfl⟩ := Prod.mk.inj (Option.some_inj.mp overwrites)
      exact SettlementTracker.status_restore _ _ _ _
  | transition other wanted => cases overwrites

theorem not_forbiddenChange_of_canTransitionTo
    {current next : SettlementStatus}
    (legal : current.canTransitionTo next = true) :
    ¬ForbiddenChange current next := by
  revert legal
  cases current <;> cases next <;> decide

/-- A transition is checked against the table. -/
theorem SettlementTracker.not_forbiddenChange_transition
    {tracker : SettlementTracker} {messageId other : Bytes32}
    {current next wanted : SettlementStatus}
    (held : tracker.status messageId = some current)
    (changed : (tracker.transitionIgnored other wanted).status messageId =
      some next) :
    ¬ForbiddenChange current next := by
  rw [SettlementTracker.status_transitionIgnored] at changed
  split at changed
  · rename_i same
    rw [← same, held, Option.map_some, Option.some_inj] at changed
    split at changed
    · rename_i legal
      subst changed
      exact not_forbiddenChange_of_canTransitionTo legal
    · exact fun forbidden => forbidden.1 changed
  · exact fun forbidden =>
      forbidden.1 (Option.some_inj.mp (held.symm.trans changed))

/-- Only an operation that overwrites a status can make a forbidden change,
and it is the one from the status there is to the one written. -/
theorem changesForbidden_iff (operations : List TrackerOperation) :
    ChangesForbidden operations ↔
      ∃ before operation after messageId current next,
        operations = before ++ operation :: after ∧
        operation.overwrites = some (messageId, next) ∧
        (SettlementTracker.new.operateAll before).status messageId =
          some current ∧
        ForbiddenChange current next := by
  constructor
  · rintro ⟨before, operation, after, split, messageId, current, next, held,
      changed, forbidden⟩
    cases overwrites : operation.overwrites with
    | some written =>
        obtain ⟨target, status⟩ := written
        rw [TrackerOperation.status_operate overwrites] at changed
        split at changed
        · rename_i same
          subst same
          exact ⟨before, operation, after, messageId, current, status, split,
            overwrites, held, Option.some_inj.mp changed ▸ forbidden⟩
        · exact absurd (Option.some_inj.mp (held.symm.trans changed))
            forbidden.1
    | none =>
        cases operation with
        | transition other wanted =>
            exact absurd forbidden
              (SettlementTracker.not_forbiddenChange_transition held changed)
        | _ => cases overwrites
  · rintro ⟨before, operation, after, messageId, current, next, split,
      overwrites, held, forbidden⟩
    refine ⟨before, operation, after, split, messageId, current, next, held,
      ?_, forbidden⟩
    rw [TrackerOperation.status_operate overwrites, if_pos rfl]

/-- The checker tells whether a forbidden change was made exactly on the runs
in which no `track` and no `restore` overwrites a status with one that it may
not become. -/
theorem checkInvariants_detects_iff
    (iteration : HashMap.Iteration Bytes32 SettlementStatus)
    (operations : List TrackerOperation) :
    ((ChangesForbidden operations → ∃ violation,
        checkInvariants iteration
          (SettlementTracker.new.operateAll operations) = .error violation) ∧
      (¬ChangesForbidden operations →
        checkInvariants iteration
          (SettlementTracker.new.operateAll operations) = .ok ())) ↔
      ∀ before operation after messageId current next,
        operations = before ++ operation :: after →
        operation.overwrites = some (messageId, next) →
        (SettlementTracker.new.operateAll before).status messageId =
          some current →
        ¬ForbiddenChange current next := by
  have passes := checkInvariants_ok iteration
    (SettlementTracker.new.operateAll operations)
  constructor
  · rintro ⟨detected, -⟩ before operation after messageId current next split
      overwrites held forbidden
    obtain ⟨violation, found⟩ := detected
      ((changesForbidden_iff operations).mpr ⟨before, operation, after,
        messageId, current, next, split, overwrites, held, forbidden⟩)
    rw [passes] at found
    cases found
  · intro kept
    refine ⟨?_, fun _ => passes⟩
    intro changed
    obtain ⟨before, operation, after, messageId, current, next, split,
      overwrites, held, forbidden⟩ :=
        (changesForbidden_iff operations).mp changed
    exact absurd forbidden (kept _ _ _ _ _ _ split overwrites held)

/-- The checker passes every tracker. So it tells whether a forbidden change was
made on just those runs in which no `track` and no `restore` makes one. -/
theorem checkInvariants_passes
    (iteration : HashMap.Iteration Bytes32 SettlementStatus) :
    (∀ tracker, checkInvariants iteration tracker = .ok ()) ∧
    ∀ operations : List TrackerOperation,
      ((ChangesForbidden operations → ∃ violation,
          checkInvariants iteration
            (SettlementTracker.new.operateAll operations) =
              .error violation) ∧
        (¬ChangesForbidden operations →
          checkInvariants iteration
            (SettlementTracker.new.operateAll operations) = .ok ())) ↔
        ∀ before operation after messageId current next,
          operations = before ++ operation :: after →
          operation.overwrites = some (messageId, next) →
          (SettlementTracker.new.operateAll before).status messageId =
            some current →
          ¬ForbiddenChange current next := by
  constructor
  · intro tracker
    exact checkInvariants_ok iteration tracker
  · intro operations
    exact checkInvariants_detects_iff iteration operations

/-- A settled envelope restored as propagating goes unnoticed. -/
theorem settled_mutation_undetected :
    let messageId : Bytes32 := Vector.replicate 32 2
    let operations : List TrackerOperation :=
      [.restore messageId .settled, .restore messageId .propagating]
    ChangesForbidden operations ∧
      ¬∃ iteration violation, checkInvariants iteration
        (SettlementTracker.new.operateAll operations) = .error violation := by
  intro messageId operations
  constructor
  · refine ⟨[.restore messageId .settled], .restore messageId .propagating,
      [], rfl, messageId, .settled, .propagating, ?_, ?_, by decide⟩
    · simp [SettlementTracker.operateAll, SettlementTracker.operate,
        SettlementTracker.status_restore]
    · simp [SettlementTracker.operate, SettlementTracker.status_restore]
  · rintro ⟨iteration, violation, found⟩
    rw [checkInvariants_ok] at found
    cases found

end StellarConduit
