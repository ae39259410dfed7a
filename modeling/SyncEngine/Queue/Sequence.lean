import SyncEngine.Data.HashMap
import SyncEngine.Data.Int64
import SyncEngine.Errors

namespace StellarConduit

open Data

inductive ReconciliationOutcome
  | noDrift
  | behindReality (staleSequences : List Int64) (newBaseline : Int64)
  | aheadOfReality (observed baseline : Int64)
  deriving DecidableEq

/-- The numbers that an outcome reports as stale. -/
def ReconciliationOutcome.stale : ReconciliationOutcome → List Int64
  | .noDrift => []
  | .behindReality staleSequences _ => staleSequences
  | .aheadOfReality _ _ => []

/-- Both maps are keyed by the account's strkey. Sequence arithmetic is that
of a release build, which wraps around. -/
structure SequenceReservationManager where
  baseline : HashMap String Int64
  reserved : HashMap String Int64

namespace SequenceReservationManager

def new : SequenceReservationManager := ⟨∅, ∅⟩

def seed (manager : SequenceReservationManager) (account : String)
    (currentChainSequence : Int64) : SequenceReservationManager where
  baseline := manager.baseline.insert account currentChainSequence
  reserved := manager.reserved.insert account currentChainSequence

def reserveNext (manager : SequenceReservationManager) (account : String) :
    Except SyncEngineError (Int64 × SequenceReservationManager) :=
  match manager.reserved.lookup account with
  | none => .error (.noSequenceReserved account)
  | some last =>
      let next := last + 1
      .ok (next, { manager with
        reserved := manager.reserved.insert account next })

def lastReserved (manager : SequenceReservationManager) (account : String) :
    Option Int64 :=
  manager.reserved.lookup account

def release (manager : SequenceReservationManager) (account : String)
    (sequence : Int64) :
    Except SyncEngineError SequenceReservationManager :=
  match manager.reserved.lookup account with
  | none => .error (.noSequenceReserved account)
  | some last =>
      if last ≠ sequence then
        .error (.sequenceOutOfOrder account sequence last)
      else
        .ok { manager with
          reserved := manager.reserved.insert account (last - 1) }

/-- `let _ = manager.release(account, sequence)` -/
def releaseIgnored (manager : SequenceReservationManager) (account : String)
    (sequence : Int64) : SequenceReservationManager :=
  match manager.release account sequence with
  | .ok released => released
  | .error _ => manager

/-- The accessor `baseline`. -/
def baselineOf (manager : SequenceReservationManager) (account : String) :
    Option Int64 :=
  manager.baseline.lookup account

def reconcile (manager : SequenceReservationManager) (account : String)
    (observedChainSequence : Int64) :
    ReconciliationOutcome × SequenceReservationManager :=
  match manager.baseline.lookup account with
  | none => (.noDrift, manager.seed account observedChainSequence)
  | some currentBaseline =>
      if observedChainSequence = currentBaseline then
        (.noDrift, manager)
      else if observedChainSequence < currentBaseline then
        (.aheadOfReality observedChainSequence currentBaseline, manager)
      else
        let currentReserved :=
          (manager.reserved.lookup account).getD currentBaseline
        let staleEnd := min observedChainSequence currentReserved
        let staleSequences :=
          if currentBaseline < staleEnd then
            ((currentBaseline + 1)...=staleEnd).toList
          else []
        let baseline := manager.baseline.insert account observedChainSequence
        let reserved :=
          if currentReserved < observedChainSequence then
            manager.reserved.insert account observedChainSequence
          else manager.reserved
        (.behindReality staleSequences observedChainSequence,
          ⟨baseline, reserved⟩)

@[simp] theorem lastReserved_new (account : String) :
    new.lastReserved account = none := by
  simp [new, lastReserved]

theorem lastReserved_seed (manager : SequenceReservationManager)
    (account other : String) (sequence : Int64) :
    (manager.seed account sequence).lastReserved other =
      if other = account then some sequence
      else manager.lastReserved other :=
  HashMap.lookup_insert_ite _ _ _ _

theorem reserveNext_of_reserved {manager : SequenceReservationManager}
    {account : String} {last : Int64}
    (held : manager.lastReserved account = some last) :
    manager.reserveNext account =
      .ok (last + 1, { manager with
        reserved := manager.reserved.insert account (last + 1) }) := by
  have found : manager.reserved.lookup account = some last := held
  simp [reserveNext, found]

theorem releaseIgnored_reserveNext
    {manager reserved : SequenceReservationManager} {account : String}
    {sequence : Int64}
    (taken : manager.reserveNext account = .ok (sequence, reserved)) :
    reserved.releaseIgnored account sequence = manager := by
  cases held : manager.reserved.lookup account with
  | none => simp [reserveNext, held] at taken
  | some last =>
      simp only [reserveNext, held, Except.ok.injEq, Prod.mk.injEq] at taken
      obtain ⟨rfl, rfl⟩ := taken
      have back : last + 1 - 1 = last := by simp
      simp only [releaseIgnored, release, Finmap.lookup_insert, ne_eq,
        not_true_eq_false, if_false, back]
      rw [HashMap.insert_insert_eq_self held]

theorem seed_eq_self_iff {manager : SequenceReservationManager}
    {account : String} {sequence : Int64} :
    manager.seed account sequence = manager ↔
      manager.baseline.lookup account = some sequence ∧
        manager.reserved.lookup account = some sequence := by
  obtain ⟨baseline, reserved⟩ := manager
  rw [seed, mk.injEq, HashMap.insert_eq_self_iff, HashMap.insert_eq_self_iff]

/-! What each call does to the two numbers of an account. -/

theorem baselineOf_seed (manager : SequenceReservationManager)
    (account other : String) (sequence : Int64) :
    (manager.seed account sequence).baselineOf other =
      if other = account then some sequence else manager.baselineOf other :=
  HashMap.lookup_insert_ite _ _ _ _

theorem reserveNext_cases {manager next : SequenceReservationManager}
    {account : String} {sequence : Int64}
    (taken : manager.reserveNext account = .ok (sequence, next)) :
    ∃ last, manager.lastReserved account = some last ∧ sequence = last + 1 ∧
      ∀ other, next.baselineOf other = manager.baselineOf other ∧
        next.lastReserved other =
          if other = account then some (last + 1)
          else manager.lastReserved other := by
  cases held : manager.lastReserved account with
  | none =>
      have missing : manager.reserved.lookup account = none := held
      simp [reserveNext, missing] at taken
  | some last =>
      rw [reserveNext_of_reserved held] at taken
      obtain ⟨rfl, rfl⟩ := Prod.mk.inj (Except.ok.inj taken)
      exact ⟨last, rfl, rfl, fun other =>
        ⟨rfl, HashMap.lookup_insert_ite _ _ _ _⟩⟩

theorem release_cases {manager next : SequenceReservationManager}
    {account : String} {sequence : Int64}
    (released : manager.release account sequence = .ok next) :
    manager.lastReserved account = some sequence ∧
      ∀ other, next.baselineOf other = manager.baselineOf other ∧
        next.lastReserved other =
          if other = account then some (sequence - 1)
          else manager.lastReserved other := by
  unfold release at released
  cases held : manager.reserved.lookup account with
  | none => simp [held] at released
  | some last =>
      simp only [held] at released
      split at released
      · cases released
      · rename_i same
        obtain rfl : last = sequence := not_not.mp same
        obtain rfl := Except.ok.inj released
        exact ⟨held, fun other => ⟨rfl, HashMap.lookup_insert_ite _ _ _ _⟩⟩

theorem reconcile_unseeded {manager : SequenceReservationManager}
    {account : String} (unseeded : manager.baselineOf account = none)
    (observed : Int64) :
    manager.reconcile account observed =
      (.noDrift, manager.seed account observed) := by
  have missing : manager.baseline.lookup account = none := unseeded
  simp [reconcile, missing]

theorem reconcile_not_behind {manager : SequenceReservationManager}
    {account : String} {baseline observed : Int64}
    (based : manager.baselineOf account = some baseline)
    (notBehind : observed ≤ baseline) :
    manager.reconcile account observed =
      (if observed = baseline then .noDrift
        else .aheadOfReality observed baseline, manager) := by
  have found : manager.baseline.lookup account = some baseline := based
  by_cases same : observed = baseline
  · simp [reconcile, found, same]
  · have below : observed < baseline :=
      Int64.lt_of_le_of_ne notBehind same
    simp [reconcile, found, same, below]

theorem reconcile_behind {manager next : SequenceReservationManager}
    {account : String} {baseline reserved observed : Int64}
    {outcome : ReconciliationOutcome}
    (based : manager.baselineOf account = some baseline)
    (held : manager.lastReserved account = some reserved)
    (behind : baseline < observed)
    (reconciled : manager.reconcile account observed = (outcome, next)) :
    outcome.stale.Pairwise (· < ·) ∧
      (∀ value, value ∈ outcome.stale ↔
        baseline < value ∧ value ≤ observed ∧ value ≤ reserved) ∧
      ∀ other,
        next.baselineOf other =
          (if other = account then some observed
            else manager.baselineOf other) ∧
        next.lastReserved other =
          (if other = account then
              some (if reserved < observed then observed else reserved)
            else manager.lastReserved other) := by
  have foundBaseline : manager.baseline.lookup account = some baseline := based
  have foundReserved : manager.reserved.lookup account = some reserved := held
  have differ : observed ≠ baseline := (Int64.ne_of_lt behind).symm
  have notBelow : ¬observed < baseline := Int64.lt_asymm behind
  simp only [reconcile, foundBaseline, foundReserved, differ, notBelow,
    if_false, Option.getD_some] at reconciled
  obtain ⟨rfl, rfl⟩ := Prod.mk.inj reconciled
  refine ⟨pairwise_range_min _ _ _, fun value => mem_range_min, ?_⟩
  intro other
  refine ⟨HashMap.lookup_insert_ite _ _ _ _, ?_⟩
  unfold lastReserved
  dsimp only
  split
  · exact HashMap.lookup_insert_ite _ _ _ _
  · split
    · rename_i same
      exact same ▸ foundReserved
    · rfl

theorem reconcile_other {manager next : SequenceReservationManager}
    {account other : String} {observed : Int64}
    {outcome : ReconciliationOutcome}
    (reconciled : manager.reconcile other observed = (outcome, next))
    (differ : account ≠ other) :
    next.baselineOf account = manager.baselineOf account ∧
      next.lastReserved account = manager.lastReserved account := by
  cases based : manager.baselineOf other with
  | none =>
      rw [reconcile_unseeded based] at reconciled
      obtain ⟨-, rfl⟩ := Prod.mk.inj reconciled
      simp [baselineOf_seed, lastReserved_seed, differ]
  | some baseline =>
      by_cases behind : baseline < observed
      · have found : manager.baseline.lookup other = some baseline := based
        have differs : observed ≠ baseline := (Int64.ne_of_lt behind).symm
        have notBelow : ¬observed < baseline := Int64.lt_asymm behind
        simp only [reconcile, found, differs, notBelow, if_false] at reconciled
        obtain ⟨-, rfl⟩ := Prod.mk.inj reconciled
        simp only [baselineOf, lastReserved]
        refine ⟨Finmap.lookup_insert_of_ne _ differ, ?_⟩
        split
        · exact Finmap.lookup_insert_of_ne _ differ
        · rfl
      · rw [reconcile_not_behind based (Int64.not_lt.mp behind)] at reconciled
        obtain ⟨-, rfl⟩ := Prod.mk.inj reconciled
        exact ⟨rfl, rfl⟩

end SequenceReservationManager

end StellarConduit
