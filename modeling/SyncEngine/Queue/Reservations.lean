import SyncEngine.Data.Run
import SyncEngine.Queue.Sequence

namespace StellarConduit

open Data

/-! Calls on the manager in any order, with what they answer. -/

inductive ReservationCall
  | seed (account : String) (currentChainSequence : Int64)
  | reserveNext (account : String) (answer : Except SyncEngineError Int64)
  | release (account : String) (sequence : Int64)
      (answer : Except SyncEngineError Unit)
  | reconcile (account : String) (observed : Int64)
      (answer : ReconciliationOutcome)

namespace SequenceReservationManager

/-- An account is seeded once, by a call to `seed` or by its first
reconciliation. -/
def Step (manager : SequenceReservationManager) :
    ReservationCall → SequenceReservationManager → Prop
  | .seed account currentChainSequence, next =>
      manager.baselineOf account = none ∧
        next = manager.seed account currentChainSequence
  | .reserveNext account (.ok sequence), next =>
      manager.reserveNext account = .ok (sequence, next)
  | .reserveNext account (.error error), next =>
      manager.reserveNext account = .error error ∧ next = manager
  | .release account sequence (.ok ()), next =>
      manager.release account sequence = .ok next
  | .release account sequence (.error error), next =>
      manager.release account sequence = .error error ∧ next = manager
  | .reconcile account observed answer, next =>
      manager.reconcile account observed = (answer, next)

end SequenceReservationManager

namespace ReservationCall

/-- The numbers reserved and not released, after one more call. -/
def hold (account : String) (numbers : List Int64) :
    ReservationCall → List Int64
  | .reserveNext other (.ok sequence) =>
      if other = account then numbers ++ [sequence] else numbers
  | .release other sequence (.ok ()) =>
      if other = account then numbers.filter fun number => number ≠ sequence
      else numbers
  | _ => numbers

/-- The numbers that one call reports as stale. -/
def staleFor (account : String) : ReservationCall → List Int64
  | .reconcile other _ answer => if other = account then answer.stale else []
  | _ => []

end ReservationCall

/-- The numbers reserved for an account and not released since. -/
def held (account : String) (trace : List ReservationCall) : List Int64 :=
  trace.foldl (ReservationCall.hold account) []

/-- All numbers reported as stale, in the order of the reports. -/
def reported (account : String) (trace : List ReservationCall) : List Int64 :=
  trace.flatMap (ReservationCall.staleFor account)

@[simp] theorem held_nil (account : String) : held account [] = [] := rfl

@[simp] theorem held_snoc (account : String) (trace : List ReservationCall)
    (call : ReservationCall) :
    held account (trace ++ [call]) = call.hold account (held account trace) :=
  List.foldl_concat _ _ _ _

@[simp] theorem reported_nil (account : String) : reported account [] = [] :=
  rfl

@[simp] theorem reported_snoc (account : String)
    (trace : List ReservationCall) (call : ReservationCall) :
    reported account (trace ++ [call]) =
      reported account trace ++ call.staleFor account := by
  simp [reported]

/-- What one call does to the two numbers of one account. -/
inductive Change (account : String) (manager : SequenceReservationManager)
    (call : ReservationCall) (next : SequenceReservationManager) : Prop
  | idle (sameBaseline : next.baselineOf account = manager.baselineOf account)
      (sameReserved : next.lastReserved account = manager.lastReserved account)
      (holds : ∀ numbers, call.hold account numbers = numbers)
      (quiet : call.staleFor account = [])
  | seeded (sequence : Int64) (unseeded : manager.baselineOf account = none)
      (based : next.baselineOf account = some sequence)
      (top : next.lastReserved account = some sequence)
      (holds : ∀ numbers, call.hold account numbers = numbers)
      (quiet : call.staleFor account = [])
  | reserved (last : Int64)
      (made : call = .reserveNext account (.ok (last + 1)))
      (top : manager.lastReserved account = some last)
      (sameBaseline : next.baselineOf account = manager.baselineOf account)
      (raised : next.lastReserved account = some (last + 1))
  | released (sequence : Int64)
      (made : call = .release account sequence (.ok ()))
      (top : manager.lastReserved account = some sequence)
      (sameBaseline : next.baselineOf account = manager.baselineOf account)
      (lowered : next.lastReserved account = some (sequence - 1))
  | caughtUp (baseline reserved observed : Int64)
      (answer : ReconciliationOutcome)
      (made : call = .reconcile account observed answer)
      (based : manager.baselineOf account = some baseline)
      (top : manager.lastReserved account = some reserved)
      (behind : baseline < observed)
      (increasing : answer.stale.Pairwise (· < ·))
      (stale : ∀ number, number ∈ answer.stale ↔
        baseline < number ∧ number ≤ observed ∧ number ≤ reserved)
      (raised : next.baselineOf account = some observed)
      (kept : next.lastReserved account =
        some (if reserved < observed then observed else reserved))

theorem Change.of_reconcile {account : String} {observed : Int64}
    {answer : ReconciliationOutcome}
    {manager next : SequenceReservationManager}
    (complete : manager.baselineOf account ≠ none →
      manager.lastReserved account ≠ none)
    (stepped : manager.reconcile account observed = (answer, next)) :
    Change account manager (.reconcile account observed answer) next := by
  cases based : manager.baselineOf account with
  | none =>
      rw [SequenceReservationManager.reconcile_unseeded based] at stepped
      obtain ⟨rfl, rfl⟩ := Prod.mk.inj stepped
      apply Change.seeded observed based
      · simp [SequenceReservationManager.baselineOf_seed]
      · simp [SequenceReservationManager.lastReserved_seed]
      · exact fun _ => rfl
      · simp [ReservationCall.staleFor, ReconciliationOutcome.stale]
  | some baseline =>
      obtain ⟨reserved, top⟩ := Option.ne_none_iff_exists'.mp
        (complete (by simp [based]))
      by_cases behind : baseline < observed
      · obtain ⟨increasing, stale, numbers⟩ :=
          SequenceReservationManager.reconcile_behind based top behind stepped
        obtain ⟨raised, kept⟩ := numbers account
        rw [if_pos rfl] at raised kept
        exact .caughtUp baseline reserved observed answer rfl based top behind
          increasing stale raised kept
      · rw [SequenceReservationManager.reconcile_not_behind based
          (Int64.not_lt.mp behind)] at stepped
        obtain ⟨rfl, rfl⟩ := Prod.mk.inj stepped
        apply Change.idle rfl rfl (fun _ => rfl)
        simp only [ReservationCall.staleFor, if_true]
        split
        · rfl
        · rfl

theorem Change.of_step {account : String} {call : ReservationCall}
    {manager next : SequenceReservationManager}
    (complete : manager.baselineOf account ≠ none →
      manager.lastReserved account ≠ none)
    (stepped : manager.Step call next) :
    Change account manager call next := by
  cases call with
  | seed other sequence =>
      obtain ⟨unseeded, rfl⟩ := stepped
      by_cases same : account = other
      · subst same
        apply Change.seeded sequence unseeded
        · simp [SequenceReservationManager.baselineOf_seed]
        · simp [SequenceReservationManager.lastReserved_seed]
        · exact fun _ => rfl
        · rfl
      · apply Change.idle
        · simp [SequenceReservationManager.baselineOf_seed, same]
        · simp [SequenceReservationManager.lastReserved_seed, same]
        · exact fun _ => rfl
        · rfl
  | reserveNext other answer =>
      cases answer with
      | error error =>
          obtain ⟨-, rfl⟩ := stepped
          exact .idle rfl rfl (fun _ => rfl) rfl
      | ok sequence =>
          obtain ⟨last, top, rfl, numbers⟩ :=
            SequenceReservationManager.reserveNext_cases stepped
          obtain ⟨sameBaseline, raised⟩ := numbers account
          by_cases same : account = other
          · subst same
            rw [if_pos rfl] at raised
            exact .reserved last rfl top sameBaseline raised
          · rw [if_neg same] at raised
            exact .idle sameBaseline raised
              (fun _ => if_neg (Ne.symm same)) rfl
  | release other sequence answer =>
      cases answer with
      | error error =>
          obtain ⟨-, rfl⟩ := stepped
          exact .idle rfl rfl (fun _ => rfl) rfl
      | ok =>
          obtain ⟨top, numbers⟩ :=
            SequenceReservationManager.release_cases stepped
          obtain ⟨sameBaseline, lowered⟩ := numbers account
          by_cases same : account = other
          · subst same
            rw [if_pos rfl] at lowered
            exact .released sequence rfl top sameBaseline lowered
          · rw [if_neg same] at lowered
            exact .idle sameBaseline lowered
              (fun _ => if_neg (Ne.symm same)) rfl
  | reconcile other observed answer =>
      by_cases same : account = other
      · subst same
        exact Change.of_reconcile complete stepped
      · obtain ⟨sameBaseline, sameReserved⟩ :=
          SequenceReservationManager.reconcile_other stepped same
        exact .idle sameBaseline sameReserved (fun _ => rfl)
          (if_neg (Ne.symm same))

/-! Between the baseline and the last number. -/

/-- Nothing held lies above the last number reserved, and that is not below
the baseline. -/
inductive InOrder (account : String) (trace : List ReservationCall)
    (manager : SequenceReservationManager) : Prop
  | unseeded (noBaseline : manager.baselineOf account = none)
      (noReserved : manager.lastReserved account = none)
      (nothing : held account trace = [])
  | seeded (baseline reserved : Int64)
      (based : manager.baselineOf account = some baseline)
      (top : manager.lastReserved account = some reserved)
      (ordered : baseline ≤ reserved)
      (bounded : ∀ number ∈ held account trace, number ≤ reserved)

namespace InOrder

variable {account : String} {trace : List ReservationCall}
  {call : ReservationCall} {manager next : SequenceReservationManager}

theorem complete (inOrder : InOrder account trace manager) :
    manager.baselineOf account ≠ none → manager.lastReserved account ≠ none := by
  cases inOrder with
  | unseeded noBaseline => exact fun based => absurd noBaseline based
  | seeded baseline reserved based top => simp [top]

theorem start :
    InOrder account [] SequenceReservationManager.new := by
  apply InOrder.unseeded
  · simp [SequenceReservationManager.baselineOf,
      SequenceReservationManager.new]
  · simp
  · rfl

theorem of_seed (sequence : Int64) :
    InOrder account [] (manager.seed account sequence) := by
  apply InOrder.seeded sequence sequence
  · simp [SequenceReservationManager.baselineOf_seed]
  · simp [SequenceReservationManager.lastReserved_seed]
  · exact Int64.le_refl _
  · simp

end InOrder

/-- `reserve_next` has a number left, and `release` gives back one that is
above the baseline. -/
def Sound (manager : SequenceReservationManager) : ReservationCall → Prop
  | .reserveNext account _ =>
      manager.lastReserved account ≠ some Int64.maxValue
  | .release account sequence _ =>
      manager.lastReserved account = some sequence →
        ∀ baseline, manager.baselineOf account = some baseline →
          baseline < sequence
  | _ => True

theorem InOrder.step {account : String} {trace : List ReservationCall}
    {call : ReservationCall} {manager next : SequenceReservationManager}
    (inOrder : InOrder account trace manager) (sound : Sound manager call)
    (stepped : manager.Step call next) :
    InOrder account (trace ++ [call]) next := by
  cases Change.of_step inOrder.complete stepped with
  | idle sameBaseline sameReserved holds quiet =>
      cases inOrder with
      | unseeded noBaseline noReserved nothing =>
          apply InOrder.unseeded
          · rw [sameBaseline, noBaseline]
          · rw [sameReserved, noReserved]
          · rw [held_snoc, holds, nothing]
      | seeded baseline reserved based top ordered bounded =>
          apply InOrder.seeded baseline reserved
          · rw [sameBaseline, based]
          · rw [sameReserved, top]
          · exact ordered
          · rw [held_snoc, holds]
            exact bounded
  | seeded sequence unseeded based top holds quiet =>
      cases inOrder with
      | unseeded noBaseline noReserved nothing =>
          apply InOrder.seeded sequence sequence based top (Int64.le_refl _)
          simp [holds, nothing]
      | seeded baseline reserved based =>
          rw [unseeded] at based
          cases based
  | reserved last made top sameBaseline raised =>
      subst made
      cases inOrder with
      | unseeded noBaseline noReserved =>
          rw [noReserved] at top
          cases top
      | seeded baseline reserved based below ordered bounded =>
          obtain rfl := Option.some_inj.mp (top.symm.trans below)
          have room : last ≠ Int64.maxValue :=
            fun full => sound (full ▸ top)
          have grown : last < last + 1 := lt_add_one room
          apply InOrder.seeded baseline (last + 1)
            (sameBaseline.trans based) raised
          · exact Int64.le_of_lt (Int64.lt_of_le_of_lt ordered grown)
          · intro number among
            simp only [held_snoc, ReservationCall.hold, if_true,
              List.mem_append, List.mem_singleton] at among
            rcases among with earlier | rfl
            · exact Int64.le_of_lt
                (Int64.lt_of_le_of_lt (bounded number earlier) grown)
            · exact Int64.le_refl _
  | released sequence made top sameBaseline lowered =>
      subst made
      cases inOrder with
      | unseeded noBaseline noReserved =>
          rw [noReserved] at top
          cases top
      | seeded baseline reserved based below ordered bounded =>
          obtain rfl := Option.some_inj.mp (top.symm.trans below)
          have above : baseline < sequence := sound top baseline based
          apply InOrder.seeded baseline (sequence - 1)
            (sameBaseline.trans based) lowered
          · exact le_sub_one_of_lt above
          · intro number among
            simp only [held_snoc, ReservationCall.hold, if_true,
              List.mem_filter, decide_eq_true_eq] at among
            obtain ⟨earlier, differs⟩ := among
            exact le_sub_one_of_lt
              (Int64.lt_of_le_of_ne (bounded number earlier) differs)
  | caughtUp baseline reserved observed answer made based top behind
      increasing stale raised kept =>
      subst made
      cases inOrder with
      | unseeded noBaseline =>
          rw [noBaseline] at based
          cases based
      | seeded _ _ basedBefore topBefore ordered bounded =>
          obtain rfl := Option.some_inj.mp (based.symm.trans basedBefore)
          obtain rfl := Option.some_inj.mp (top.symm.trans topBefore)
          apply InOrder.seeded observed _ raised kept
          · split
            · exact Int64.le_refl _
            · rename_i enough
              exact Int64.not_lt.mp enough
          · intro number among
            rw [held_snoc] at among
            have bound := bounded number among
            split
            · rename_i short
              exact Int64.le_of_lt (Int64.lt_of_le_of_lt bound short)
            · exact bound

/-- The runs of the manager from the states that satisfy `initial`. -/
def reservations (initial : SequenceReservationManager → Prop) :
    System SequenceReservationManager ReservationCall where
  init := initial
  step := SequenceReservationManager.Step

theorem reservations_snoc {initial : SequenceReservationManager → Prop}
    {guard : List ReservationCall → SequenceReservationManager →
      ReservationCall → Prop}
    {trace : List ReservationCall} {call : ReservationCall}
    {manager next : SequenceReservationManager}
    (run : (reservations initial).RunUnder guard trace manager)
    (stepped : manager.Step call next) (guarded : guard trace manager call) :
    (reservations initial).RunUnder guard (trace ++ [call]) next :=
  run.snoc stepped guarded

def freshManager (manager : SequenceReservationManager) : Prop :=
  manager = SequenceReservationManager.new

/-- `sequence` is above the baseline of the account, held by nobody, and the
successor of the last number, not wrapped around. -/
structure NewNumber (trace : List ReservationCall)
    (manager : SequenceReservationManager) (account : String)
    (sequence : Int64) : Prop where
  aboveBaseline : ∃ baseline, manager.baselineOf account = some baseline ∧
    baseline < sequence
  notHeld : sequence ∉ held account trace
  noOverflow : ∃ last, manager.lastReserved account = some last ∧
    sequence.toInt = last.toInt + 1

theorem inOrder_of_run {trace : List ReservationCall}
    {manager : SequenceReservationManager}
    (run : (reservations freshManager).RunUnder
      (fun _ state call => Sound state call) trace manager)
    (account : String) : InOrder account trace manager := by
  apply run.invariant (InOrder account)
  · rintro state rfl
    exact InOrder.start
  · intro before state call next _ inOrder sound stepped
    exact inOrder.step sound stepped

theorem InOrder.newNumber {account : String} {trace : List ReservationCall}
    {manager next : SequenceReservationManager} {sequence : Int64}
    (inOrder : InOrder account trace manager)
    (room : manager.lastReserved account ≠ some Int64.maxValue)
    (stepped : manager.Step (.reserveNext account (.ok sequence)) next) :
    NewNumber trace manager account sequence := by
  obtain ⟨last, top, rfl, -⟩ :=
    SequenceReservationManager.reserveNext_cases stepped
  have below : last ≠ Int64.maxValue := fun full => room (full ▸ top)
  cases inOrder with
  | unseeded noBaseline noReserved =>
      rw [noReserved] at top
      cases top
  | seeded baseline reserved based topBefore ordered bounded =>
      obtain rfl := Option.some_inj.mp (top.symm.trans topBefore)
      have grown : last < last + 1 := lt_add_one below
      refine ⟨⟨baseline, based, Int64.lt_of_le_of_lt ordered grown⟩, ?_,
        last, top, toInt_add_one below⟩
      intro among
      exact Int64.not_lt.mpr (bounded _ among) grown

theorem NewNumber.not_full {account : String} {trace : List ReservationCall}
    {manager : SequenceReservationManager} {sequence : Int64}
    (new : NewNumber trace manager account sequence) :
    manager.lastReserved account ≠ some Int64.maxValue := by
  intro full
  obtain ⟨last, top, successor⟩ := new.noOverflow
  obtain rfl := Option.some_inj.mp (full.symm.trans top)
  have bound := sequence.toInt_le
  omega

/-- As long as `release` is never given a number at or below the baseline and
`reserve_next` never has to go beyond the largest number, every number
reserved is new. A call that does either makes this `reserve_next`, or the
next one, answer a number that is not. -/
theorem reservations_above_baseline {trace : List ReservationCall}
    {manager : SequenceReservationManager}
    (run : (reservations freshManager).RunUnder
      (fun _ state call => Sound state call) trace manager) :
    (∀ before account sequence after,
      trace = before ++ .reserveNext account (.ok sequence) :: after →
      ∃ state, (reservations freshManager).Run before state ∧
        NewNumber before state account sequence) ∧
    (∀ account sequence next,
      manager.Step (.reserveNext account (.ok sequence)) next →
      (Sound manager (.reserveNext account (.ok sequence)) ↔
        NewNumber trace manager account sequence)) ∧
    (∀ account released next,
      manager.Step (.release account released (.ok ())) next →
      (Sound manager (.release account released (.ok ())) ↔
        ∀ sequence later,
          next.Step (.reserveNext account (.ok sequence)) later →
          NewNumber (trace ++ [.release account released (.ok ())]) next
            account sequence)) := by
  refine ⟨?_, ?_, ?_⟩
  · intro before account sequence after split
    obtain ⟨state, next, prior, stepped, sound⟩ := run.at_label split
    refine ⟨state, ?_, ?_⟩
    · exact prior.weaken fun _ _ _ _ _ _ _ => trivial
    · exact (inOrder_of_run prior account).newNumber sound stepped
  · intro account sequence next stepped
    constructor
    · intro sound
      exact (inOrder_of_run run account).newNumber sound stepped
    · intro new
      exact new.not_full
  · intro account released next stepped
    have inOrder := inOrder_of_run run account
    obtain ⟨top, numbers⟩ :=
      SequenceReservationManager.release_cases stepped
    obtain ⟨sameBaseline, lowered⟩ := numbers account
    rw [if_pos rfl] at lowered
    constructor
    · intro sound sequence later again
      refine (inOrder.step sound stepped).newNumber ?_ again
      cases inOrder with
      | unseeded noBaseline noReserved =>
          rw [noReserved] at top
          cases top
      | seeded baseline reserved based =>
          have above : baseline < released := sound top baseline based
          rw [lowered]
          intro full
          exact sub_one_ne_max above (Option.some_inj.mp full)
    · intro always _ baseline based
      have again := SequenceReservationManager.reserveNext_of_reserved lowered
      obtain ⟨⟨current, basedNow, above⟩, -, -⟩ := always _ _ again
      rw [sameBaseline, based] at basedNow
      obtain rfl := Option.some_inj.mp basedNow
      rwa [Int64.sub_add_cancel] at above

def sampleSeeded : SequenceReservationManager :=
  SequenceReservationManager.new.seed "G" 100

def sampleReserved : SequenceReservationManager :=
  { sampleSeeded with reserved := sampleSeeded.reserved.insert "G" 101 }

def sampleReconciled : SequenceReservationManager :=
  { sampleReserved with baseline := sampleReserved.baseline.insert "G" 101 }

theorem sampleReserved_reconcile :
    sampleReserved.Step (.reconcile "G" 101 (.behindReality [101] 101))
      sampleReconciled := by
  change (ReconciliationOutcome.behindReality
    ((101 : Int64)...=101).toList 101, sampleReconciled) = _
  rw [range_self]

theorem sampleReserved_run :
    (reservations freshManager).RunUnder
      (fun _ state call => Sound state call)
      [.seed "G" 100, .reserveNext "G" (.ok 101)] sampleReserved := by
  have started : (reservations freshManager).RunUnder
      (fun _ state call => Sound state call) []
      SequenceReservationManager.new := .start rfl
  have seeded : SequenceReservationManager.new.Step (.seed "G" 100)
      sampleSeeded := ⟨rfl, rfl⟩
  have reserved : sampleSeeded.Step (.reserveNext "G" (.ok 101))
      sampleReserved := rfl
  have room : Sound sampleSeeded (.reserveNext "G" (.ok 101)) := by
    change sampleSeeded.lastReserved "G" ≠ some Int64.maxValue
    decide
  exact reservations_snoc (reservations_snoc started seeded trivial) reserved
    room

theorem reservations_above_baseline_sample :
    NewNumber [.seed "G" 100, .reserveNext "G" (.ok 101)] sampleReserved "G"
      102 := by
  have again : sampleReserved.Step (.reserveNext "G" (.ok 102)) _ := rfl
  have room : Sound sampleReserved (.reserveNext "G" (.ok 102)) := by
    change sampleReserved.lastReserved "G" ≠ some Int64.maxValue
    decide
  exact ((reservations_above_baseline sampleReserved_run).2.1 "G" 102 _
    again).mp room

def sampleReleased : SequenceReservationManager :=
  { sampleReconciled with
    reserved := sampleReconciled.reserved.insert "G" 100 }

/-- A number that the chain has passed is released and reserved again. -/
theorem reservation_below_baseline :
    ∃ next,
      (reservations freshManager).Run
        [.seed "G" 100, .reserveNext "G" (.ok 101),
          .reconcile "G" 101 (.behindReality [101] 101),
          .release "G" 101 (.ok ())] sampleReleased ∧
      sampleReleased.Step (.reserveNext "G" (.ok 101)) next ∧
      sampleReleased.baselineOf "G" = some 101 := by
  refine ⟨_, ?_, rfl, rfl⟩
  have reserved : (reservations freshManager).Run
      [.seed "G" 100, .reserveNext "G" (.ok 101)] sampleReserved :=
    sampleReserved_run.weaken fun _ _ _ _ _ _ _ => trivial
  have released : sampleReconciled.Step (.release "G" 101 (.ok ()))
      sampleReleased := rfl
  exact reservations_snoc
    (reservations_snoc reserved sampleReserved_reconcile trivial) released
    trivial

/-! One account whose reservations are only taken back at once. -/

def seededManager (account : String)
    (manager : SequenceReservationManager) : Prop :=
  ∃ before sequence,
    manager = SequenceReservationManager.seed before account sequence

/-- Calls as the engine makes them on an account it has seeded: `release`
directly follows the `reserve_next` it takes back. -/
def EngineCall (account : String) (trace : List ReservationCall) :
    ReservationCall → Prop
  | .seed _ _ => False
  | .reserveNext other _ => other = account
  | .release other sequence _ => other = account ∧
      trace.getLast? = some (.reserveNext account (.ok sequence))
  | .reconcile other _ _ => other = account

def HasRoom (manager : SequenceReservationManager) : ReservationCall → Prop
  | .reserveNext account _ =>
      manager.lastReserved account ≠ some Int64.maxValue
  | _ => True

/-- Every number held is either reported or still ahead of the baseline. -/
structure Accounted (account : String) (trace : List ReservationCall)
    (manager : SequenceReservationManager) (baseline reserved : Int64) :
    Prop where
  based : manager.baselineOf account = some baseline
  top : manager.lastReserved account = some reserved
  ordered : baseline ≤ reserved
  members : ∀ number, number ∈ held account trace ↔
    number ∈ reported account trace ∨ baseline < number ∧ number ≤ reserved
  past : ∀ number ∈ reported account trace,
    Int64.minValue < number ∧ number ≤ baseline
  increasing : (reported account trace).Pairwise (· < ·)
  latest : ∀ number,
    trace.getLast? = some (.reserveNext account (.ok number)) →
      baseline < number

namespace Accounted

variable {account : String} {trace : List ReservationCall}
  {call : ReservationCall} {manager next : SequenceReservationManager}
  {baseline reserved : Int64}

theorem inOrder (accounted : Accounted account trace manager baseline reserved) :
    InOrder account trace manager := by
  apply InOrder.seeded baseline reserved accounted.based accounted.top
    accounted.ordered
  intro number among
  rcases (accounted.members number).mp among with past | ahead
  · exact Int64.le_trans (accounted.past number past).2 accounted.ordered
  · exact ahead.2

theorem of_seed (before : SequenceReservationManager) (sequence : Int64) :
    Accounted account [] (before.seed account sequence) sequence sequence where
  based := by simp [SequenceReservationManager.baselineOf_seed]
  top := by simp [SequenceReservationManager.lastReserved_seed]
  ordered := Int64.le_refl _
  members number := by
    simp only [held_nil, reported_nil, List.not_mem_nil, false_or, false_iff]
    intro bounds
    exact Int64.not_lt.mpr bounds.2 bounds.1
  past := by simp
  increasing := List.Pairwise.nil
  latest := by simp

theorem idle (accounted : Accounted account trace manager baseline reserved)
    (sameBaseline : next.baselineOf account = manager.baselineOf account)
    (sameReserved : next.lastReserved account = manager.lastReserved account)
    (holds : ∀ numbers, call.hold account numbers = numbers)
    (quiet : call.staleFor account = []) :
    Accounted account (trace ++ [call]) next baseline reserved where
  based := sameBaseline.trans accounted.based
  top := sameReserved.trans accounted.top
  ordered := accounted.ordered
  members := by simpa [holds, quiet] using accounted.members
  past := by simpa [quiet] using accounted.past
  increasing := by simpa [quiet] using accounted.increasing
  latest number made := by
    obtain rfl : call = .reserveNext account (.ok number) := by
      simpa using made
    have nothing := holds []
    simp [ReservationCall.hold] at nothing

theorem taken (accounted : Accounted account trace manager baseline reserved)
    (room : reserved ≠ Int64.maxValue)
    (sameBaseline : next.baselineOf account = manager.baselineOf account)
    (raised : next.lastReserved account = some (reserved + 1)) :
    Accounted account
      (trace ++ [.reserveNext account (.ok (reserved + 1))]) next baseline
      (reserved + 1) where
  based := sameBaseline.trans accounted.based
  top := raised
  ordered := Int64.le_of_lt
    (Int64.lt_of_le_of_lt accounted.ordered (lt_add_one room))
  members number := by
    have ahead := Int64.lt_of_le_of_lt accounted.ordered (lt_add_one room)
    simp only [held_snoc, reported_snoc, ReservationCall.hold,
      ReservationCall.staleFor, if_true, List.append_nil, List.mem_append,
      List.mem_singleton, accounted.members number, le_add_one_iff room]
    constructor
    · rintro ((past | within) | rfl)
      · exact Or.inl past
      · exact Or.inr ⟨within.1, Or.inl within.2⟩
      · exact Or.inr ⟨ahead, Or.inr rfl⟩
    · rintro (past | ⟨above, within | rfl⟩)
      · exact Or.inl (Or.inl past)
      · exact Or.inl (Or.inr ⟨above, within⟩)
      · exact Or.inr rfl
  past := by simpa [ReservationCall.staleFor] using accounted.past
  increasing := by simpa [ReservationCall.staleFor] using accounted.increasing
  latest number made := by
    obtain rfl : reserved + 1 = number := by simpa using made
    exact Int64.lt_of_le_of_lt accounted.ordered (lt_add_one room)

theorem takenBack
    (accounted : Accounted account trace manager baseline reserved)
    (above : baseline < reserved)
    (sameBaseline : next.baselineOf account = manager.baselineOf account)
    (lowered : next.lastReserved account = some (reserved - 1)) :
    Accounted account (trace ++ [.release account reserved (.ok ())]) next
      baseline (reserved - 1) where
  based := sameBaseline.trans accounted.based
  top := lowered
  ordered := le_sub_one_of_lt above
  members number := by
    simp only [held_snoc, reported_snoc, ReservationCall.hold,
      ReservationCall.staleFor, if_true, List.append_nil, List.mem_filter,
      decide_eq_true_eq, accounted.members number]
    constructor
    · rintro ⟨past | within, differs⟩
      · exact Or.inl past
      · exact Or.inr ⟨within.1,
          le_sub_one_of_lt (Int64.lt_of_le_of_ne within.2 differs)⟩
    · rintro (past | within)
      · refine ⟨Or.inl past, ?_⟩
        rintro rfl
        exact Int64.not_lt.mpr (accounted.past _ past).2 above
      · have below := lt_of_le_sub_one above within.2
        exact ⟨Or.inr ⟨within.1, Int64.le_of_lt below⟩,
          Int64.ne_of_lt below⟩
  past := by simpa [ReservationCall.staleFor] using accounted.past
  increasing := by simpa [ReservationCall.staleFor] using accounted.increasing
  latest number made := by simp at made

theorem caughtUp
    (accounted : Accounted account trace manager baseline reserved)
    {observed : Int64} {answer : ReconciliationOutcome}
    (behind : baseline < observed)
    (increasing : answer.stale.Pairwise (· < ·))
    (stale : ∀ number, number ∈ answer.stale ↔
      baseline < number ∧ number ≤ observed ∧ number ≤ reserved)
    (raised : next.baselineOf account = some observed)
    (kept : next.lastReserved account =
      some (if reserved < observed then observed else reserved)) :
    Accounted account (trace ++ [.reconcile account observed answer]) next
      observed (if reserved < observed then observed else reserved) where
  based := raised
  top := kept
  ordered := by
    split
    · exact Int64.le_refl _
    · rename_i enough
      exact Int64.not_lt.mp enough
  members number := by
    simp only [held_snoc, reported_snoc, ReservationCall.hold,
      ReservationCall.staleFor, if_true, List.mem_append, stale number,
      accounted.members number]
    constructor
    · rintro (past | ⟨above, within⟩)
      · exact Or.inl (Or.inl past)
      · by_cases reached : number ≤ observed
        · exact Or.inl (Or.inr ⟨above, reached, within⟩)
        · have ahead : observed < number := Int64.not_le.mp reached
          have long : ¬reserved < observed := fun short =>
            reached (Int64.le_of_lt (Int64.lt_of_le_of_lt within short))
          exact Or.inr ⟨ahead, (if_neg long).symm ▸ within⟩
    · rintro ((past | ⟨above, -, within⟩) | ⟨ahead, within⟩)
      · exact Or.inl past
      · exact Or.inr ⟨above, within⟩
      · split at within
        · exact absurd ahead (Int64.not_lt.mpr within)
        · exact Or.inr ⟨Int64.lt_trans behind ahead, within⟩
  past number among := by
    simp only [reported_snoc, ReservationCall.staleFor, if_true,
      List.mem_append, stale number] at among
    rcases among with earlier | ⟨above, reached, -⟩
    · obtain ⟨proper, low⟩ := accounted.past number earlier
      exact ⟨proper, Int64.le_trans low (Int64.le_of_lt behind)⟩
    · exact ⟨Int64.lt_of_le_of_lt (Int64.minValue_le _) above, reached⟩
  increasing := by
    simp only [reported_snoc, ReservationCall.staleFor, if_true]
    apply List.pairwise_append.mpr
    refine ⟨accounted.increasing, increasing, ?_⟩
    intro earlier past later ahead
    exact Int64.lt_of_le_of_lt (accounted.past earlier past).2
      ((stale later).mp ahead).1
  latest number made := by simp at made

/-- What one call makes of the account: the baseline does not fall, and every
number that is held and not past yet is still so, unless it was taken back or
the call reports it. -/
theorem step (accounted : Accounted account trace manager baseline reserved)
    (made : EngineCall account trace call) (room : HasRoom manager call)
    (stepped : manager.Step call next) :
    ∃ nextBaseline nextReserved,
      Accounted account (trace ++ [call]) next nextBaseline nextReserved ∧
        baseline ≤ nextBaseline := by
  cases Change.of_step accounted.inOrder.complete stepped with
  | idle sameBaseline sameReserved holds quiet =>
      exact ⟨baseline, reserved,
        accounted.idle sameBaseline sameReserved holds quiet,
        Int64.le_refl _⟩
  | seeded sequence unseeded =>
      rw [accounted.based] at unseeded
      cases unseeded
  | reserved last called top sameBaseline raised =>
      subst called
      obtain rfl := Option.some_inj.mp (accounted.top.symm.trans top)
      have below : reserved ≠ Int64.maxValue := fun full => room (full ▸ top)
      exact ⟨baseline, reserved + 1,
        accounted.taken below sameBaseline raised, Int64.le_refl _⟩
  | released sequence called top sameBaseline lowered =>
      subst called
      obtain rfl := Option.some_inj.mp (accounted.top.symm.trans top)
      have above : baseline < reserved := accounted.latest reserved made.2
      exact ⟨baseline, reserved - 1,
        accounted.takenBack above sameBaseline lowered, Int64.le_refl _⟩
  | caughtUp _ _ observed answer called based top behind increasing stale
      raised kept =>
      subst called
      obtain rfl := Option.some_inj.mp (accounted.based.symm.trans based)
      obtain rfl := Option.some_inj.mp (accounted.top.symm.trans top)
      exact ⟨observed, _,
        accounted.caughtUp behind increasing stale raised kept,
        Int64.le_of_lt behind⟩

end Accounted

/-- Every number reserved, not released and reached by the baseline has been
reported as stale exactly once, and nothing else has. -/
structure StaleExact (account : String) (trace : List ReservationCall)
    (manager : SequenceReservationManager) : Prop where
  increasing : (reported account trace).Pairwise (· < ·)
  exactly : ∃ baseline, manager.baselineOf account = some baseline ∧
    ∀ number, number ∈ reported account trace ↔
      number ∈ held account trace ∧ number ≤ baseline

theorem Accounted.staleExact {account : String}
    {trace : List ReservationCall} {manager : SequenceReservationManager}
    {baseline reserved : Int64}
    (accounted : Accounted account trace manager baseline reserved) :
    StaleExact account trace manager := by
  refine ⟨accounted.increasing, baseline, accounted.based, ?_⟩
  intro number
  rw [accounted.members number]
  constructor
  · intro past
    exact ⟨Or.inl past, (accounted.past number past).2⟩
  · rintro ⟨past | ahead, low⟩
    · exact past
    · exact absurd ahead.1 (Int64.not_lt.mpr low)

theorem accounted_of_run {account : String} {trace : List ReservationCall}
    {manager : SequenceReservationManager}
    (run : (reservations (seededManager account)).RunUnder
      (fun before state call =>
        EngineCall account before call ∧ HasRoom state call)
      trace manager) :
    ∃ baseline reserved,
      Accounted account trace manager baseline reserved := by
  apply run.invariant fun before state =>
    ∃ baseline reserved, Accounted account before state baseline reserved
  · rintro state ⟨before, sequence, rfl⟩
    exact ⟨sequence, sequence, Accounted.of_seed before sequence⟩
  · rintro before state call next - ⟨baseline, reserved, accounted⟩
      ⟨made, room⟩ stepped
    obtain ⟨nextBaseline, nextReserved, kept, -⟩ :=
      accounted.step made room stepped
    exact ⟨nextBaseline, nextReserved, kept⟩

/-- A reservation past the largest number wraps around to one that no
reconciliation reports. -/
theorem Accounted.not_staleExact_full {account : String}
    {trace : List ReservationCall}
    {manager next : SequenceReservationManager} {sequence : Int64}
    {baseline reserved : Int64}
    (accounted : Accounted account trace manager baseline reserved)
    (full : manager.lastReserved account = some Int64.maxValue)
    (stepped : manager.Step (.reserveNext account (.ok sequence)) next) :
    ¬StaleExact account
      (trace ++ [.reserveNext account (.ok sequence)]) next := by
  intro staleExact
  obtain ⟨last, top, rfl, numbers⟩ :=
    SequenceReservationManager.reserveNext_cases stepped
  obtain rfl := Option.some_inj.mp (top.symm.trans full)
  obtain ⟨current, based, exactly⟩ := staleExact.exactly
  have wrapped : Int64.maxValue + 1 = Int64.minValue := by decide
  have among : Int64.minValue ∈ reported account
      (trace ++ [.reserveNext account (.ok (Int64.maxValue + 1))]) := by
    apply (exactly Int64.minValue).mpr
    simp [ReservationCall.hold, wrapped, Int64.minValue_le]
  rw [reported_snoc] at among
  have past : Int64.minValue ∈ reported account trace := by
    simpa [ReservationCall.staleFor] using among
  exact Int64.lt_irrefl (accounted.past _ past).1

/-- A reconciliation leaves the baseline below whatever lies above both the
baseline and the observation. -/
theorem baseline_reconcile_lt {account : String}
    {manager next : SequenceReservationManager}
    {observed baseline reserved nextBaseline number : Int64}
    {answer : ReconciliationOutcome}
    (based : manager.baselineOf account = some baseline)
    (top : manager.lastReserved account = some reserved)
    (stepped : manager.reconcile account observed = (answer, next))
    (nextBased : next.baselineOf account = some nextBaseline)
    (ahead : baseline < number) (beyond : observed < number) :
    nextBaseline < number := by
  by_cases behind : baseline < observed
  · obtain ⟨-, -, numbers⟩ :=
      SequenceReservationManager.reconcile_behind based top behind stepped
    obtain ⟨raised, -⟩ := numbers account
    rw [if_pos rfl, nextBased] at raised
    exact Option.some_inj.mp raised ▸ beyond
  · rw [SequenceReservationManager.reconcile_not_behind based
      (Int64.not_lt.mp behind)] at stepped
    obtain ⟨-, rfl⟩ := Prod.mk.inj stepped
    exact Option.some_inj.mp (based.symm.trans nextBased) ▸ ahead

/-- In the runs of one seeded account, as the engine calls it, as long as
`reserve_next` never has to go beyond the largest number. -/
theorem stale_reported_once {account : String}
    {trace : List ReservationCall} {manager : SequenceReservationManager}
    (run : (reservations (seededManager account)).RunUnder
      (fun before state call =>
        EngineCall account before call ∧ HasRoom state call)
      trace manager) :
    StaleExact account trace manager ∧
    (∀ call next, EngineCall account trace call → manager.Step call next →
      (HasRoom manager call ↔ StaleExact account (trace ++ [call]) next)) ∧
    (∀ call next baseline nextBaseline, EngineCall account trace call →
      HasRoom manager call → manager.Step call next →
      manager.baselineOf account = some baseline →
      next.baselineOf account = some nextBaseline →
      baseline ≤ nextBaseline) ∧
    (∀ observed answer next baseline,
      manager.Step (.reconcile account observed answer) next →
      manager.baselineOf account = some baseline → observed < baseline →
      next = manager ∧ answer = .aheadOfReality observed baseline) ∧
    (∀ observed answer next baseline nextBaseline number,
      manager.Step (.reconcile account observed answer) next →
      manager.baselineOf account = some baseline →
      next.baselineOf account = some nextBaseline →
      number ∈ held account trace → baseline < number → observed < number →
      let after := trace ++ [.reconcile account observed answer]
      number ∈ held account after ∧ number ∉ reported account after ∧
        nextBaseline < number) ∧
    (∀ sequence next,
      manager.Step (.reserveNext account (.ok sequence)) next →
      HasRoom manager (.reserveNext account (.ok sequence)) →
      sequence ∉ held account trace) := by
  obtain ⟨baseline, reserved, accounted⟩ := accounted_of_run run
  refine ⟨accounted.staleExact, ?_, ?_, ?_, ?_, ?_⟩
  · intro call next made stepped
    constructor
    · intro room
      obtain ⟨nextBaseline, nextReserved, kept, -⟩ :=
        accounted.step made room stepped
      exact kept.staleExact
    · intro staleExact
      cases call with
      | reserveNext other answer =>
          obtain rfl : other = account := made
          intro full
          cases answer with
          | error error =>
              have taken :=
                SequenceReservationManager.reserveNext_of_reserved full
              cases taken.symm.trans stepped.1
          | ok sequence =>
              exact accounted.not_staleExact_full full stepped staleExact
      | _ => trivial
  · intro call next current nextCurrent made room stepped based nextBased
    obtain ⟨nextBaseline, nextReserved, kept, rising⟩ :=
      accounted.step made room stepped
    obtain rfl := Option.some_inj.mp (accounted.based.symm.trans based)
    obtain rfl := Option.some_inj.mp (kept.based.symm.trans nextBased)
    exact rising
  · intro observed answer next current stepped based below
    have unmoved := SequenceReservationManager.reconcile_not_behind based
      (Int64.le_of_lt below)
    rw [if_neg (Int64.ne_of_lt below)] at unmoved
    obtain ⟨rfl, rfl⟩ := Prod.mk.inj (stepped.symm.trans unmoved)
    exact ⟨rfl, rfl⟩
  · intro observed answer next current nextCurrent number stepped based
      nextBased among ahead beyond
    have made : EngineCall account trace
        (.reconcile account observed answer) := rfl
    obtain ⟨nextBaseline, nextReserved, kept, -⟩ :=
      accounted.step made trivial stepped
    obtain rfl := Option.some_inj.mp (kept.based.symm.trans nextBased)
    have stillAhead : nextBaseline < number :=
      baseline_reconcile_lt based accounted.top stepped kept.based ahead beyond
    refine ⟨by simpa [ReservationCall.hold] using among, ?_, stillAhead⟩
    intro past
    exact Int64.not_lt.mpr (kept.past number past).2 stillAhead
  · intro sequence next stepped room
    exact (accounted.inOrder.newNumber room stepped).notHeld

theorem stale_reported_once_sample :
    StaleExact "G" [.reserveNext "G" (.ok 101),
      .reconcile "G" 101 (.behindReality [101] 101)] sampleReconciled := by
  have started : (reservations (seededManager "G")).RunUnder
      (fun before state call => EngineCall "G" before call ∧
        HasRoom state call) [] sampleSeeded :=
    .start ⟨SequenceReservationManager.new, 100, rfl⟩
  have reserved : sampleSeeded.Step (.reserveNext "G" (.ok 101))
      sampleReserved := rfl
  have room : HasRoom sampleSeeded (.reserveNext "G" (.ok 101)) := by
    change sampleSeeded.lastReserved "G" ≠ some Int64.maxValue
    decide
  exact (stale_reported_once (reservations_snoc
    (reservations_snoc started reserved ⟨rfl, room⟩) sampleReserved_reconcile
    ⟨rfl, trivial⟩)).1

def sampleFull : SequenceReservationManager :=
  SequenceReservationManager.new.seed "G" Int64.maxValue

/-- The successor of the largest number is the least one, which is past. -/
theorem stale_not_reported :
    ∃ manager,
      (reservations (seededManager "G")).RunUnder
        (fun before _ call => EngineCall "G" before call)
        [.reserveNext "G" (.ok Int64.minValue)] manager ∧
      ¬StaleExact "G" [.reserveNext "G" (.ok Int64.minValue)] manager := by
  have started : (reservations (seededManager "G")).RunUnder
      (fun before _ call => EngineCall "G" before call) [] sampleFull :=
    .start ⟨SequenceReservationManager.new, Int64.maxValue, rfl⟩
  have wrapped : sampleFull.Step (.reserveNext "G" (.ok Int64.minValue)) _ :=
    rfl
  have accounted : Accounted "G" [] sampleFull Int64.maxValue Int64.maxValue :=
    Accounted.of_seed SequenceReservationManager.new Int64.maxValue
  exact ⟨_, reservations_snoc started wrapped rfl,
    accounted.not_staleExact_full rfl wrapped⟩

end StellarConduit
