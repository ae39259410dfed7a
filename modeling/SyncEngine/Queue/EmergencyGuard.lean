import SyncEngine.Data.Expiry
import SyncEngine.Queue.Priority

namespace StellarConduit

open Data

namespace EmergencyGuard

variable {windowSecs now time : UInt64}

theorem fresh_iff : decide (saturatingSub now time < windowSecs) = true ↔
    now.toNat - time.toNat < windowSecs.toNat := by
  rw [decide_eq_true_iff, UInt64.lt_iff_toNat_lt, toNat_saturatingSub]

/-- Admissions, which are forgotten after so many seconds. -/
def expiry (windowSecs : UInt64) : Expiry UInt64 UInt64 where
  fresh now time := saturatingSub now time < windowSecs
  fresh_of_le := by
    intro now later time ordered
    rw [fresh_iff, fresh_iff]
    rw [UInt64.le_iff_toNat_le] at ordered
    omega

theorem expiry_fresh_iff : (expiry windowSecs).fresh now time = true ↔
    now.toNat - time.toNat < windowSecs.toNat :=
  fresh_iff

theorem history_prune (guard : EmergencyGuard) (now : UInt64) :
    (guard.prune now).history =
      (expiry guard.config.window.asSecs).prune now guard.history := by
  unfold prune Expiry.prune expiry
  dsimp only
  congr 1
  funext oldest
  rw [← decide_not]
  exact decide_eq_decide.mpr UInt64.not_lt.symm

/-- The error of a check that rejects at `now`. -/
def limitExceeded (guard : EmergencyGuard) (now : UInt64) : SyncEngineError :=
  .emergencyQueueLimitExceeded (guard.prune now).history.length
    guard.config.maxCount guard.config.window.asSecs

end EmergencyGuard

namespace QueueCall

/-- The time of an Emergency push. -/
def emergencyPushTime : QueueCall → Option UInt64
  | .pushAt _ .emergency now => some now
  | _ => none

end QueueCall

namespace OutboundTxQueue

/-- The time of an Emergency entry that a call admits or restores. -/
def admission (queue : OutboundTxQueue) : QueueCall → Option UInt64
  | .pushAt envelope .emergency now =>
      match (queue.pushAt envelope .emergency now).1 with
      | .ok () => some now
      | .error _ => none
  | .restoreAt _ .emergency time => some time
  | _ => none

def admissions (queue : OutboundTxQueue) (calls : List QueueCall) :
    List UInt64 :=
  Machine.collect (fun state call => (state.perform call).2) admission queue
    calls

theorem admissions_cons (queue : OutboundTxQueue) (call : QueueCall)
    (rest : List QueueCall) :
    queue.admissions (call :: rest) =
      (queue.admission call).toList ++ (queue.perform call).2.admissions rest :=
  rfl

theorem admissions_append (queue : OutboundTxQueue)
    (before after : List QueueCall) :
    queue.admissions (before ++ after) = queue.admissions before ++
      (queue.performAll before).admissions after :=
  Machine.collect_append _ _ _ _

theorem admissions_snoc (queue : OutboundTxQueue) (calls : List QueueCall)
    (call : QueueCall) :
    queue.admissions (calls ++ [call]) = queue.admissions calls ++
      ((queue.performAll calls).admission call).toList :=
  Machine.collect_snoc _ _ _ _

variable {queue : OutboundTxQueue} {guard : EmergencyGuard}

/-- A guarded Emergency push is rejected when the history is full after a
prune, and recorded when it is not. -/
theorem pushAt_guarded (guarded : queue.emergencyGuard = some guard)
    (envelope : TransactionEnvelope) (now : UInt64) :
    queue.pushAt envelope .emergency now =
      if guard.config.maxCount ≤ (guard.prune now).history.length then
        (.error (guard.limitExceeded now),
          { queue with emergencyGuard := some (guard.prune now) })
      else
        (.ok (), {
          heap := queue.heap.push ⟨.emergency, now, envelope⟩
          emergencyGuard := some ((guard.prune now).record now) }) := by
  have sameConfig : (guard.prune now).config = guard.config := rfl
  simp only [pushAt, guarded, EmergencyGuard.check, sameConfig, ge_iff_le]
  by_cases full : guard.config.maxCount ≤ (guard.prune now).history.length
  · rw [if_pos full, if_pos full]
    rfl
  · rw [if_neg full, if_neg full]

theorem pushAt_other {priority : TxPriority} (other : priority ≠ .emergency)
    (envelope : TransactionEnvelope) (now : UInt64) :
    queue.pushAt envelope priority now = (.ok (), { queue with
      heap := queue.heap.push ⟨priority, now, envelope⟩ }) := by
  cases priority with
  | emergency => exact absurd rfl other
  | _ => rfl

/-- A call records what it admits, and prunes before if it is a push. -/
theorem guard_perform (guarded : queue.emergencyGuard = some guard)
    (call : QueueCall) :
    ∃ after, (queue.perform call).2.emergencyGuard = some after ∧
      after.config = guard.config ∧
      ((call.emergencyPushTime = none ∧
          after.history =
            guard.history ++ (queue.admission call).toList) ∨
        ∃ now, call.emergencyPushTime = some now ∧
          after.history =
            (guard.prune now).history ++ (queue.admission call).toList) := by
  cases call with
  | pushAt envelope priority now =>
      by_cases emergency : priority = .emergency
      · subst emergency
        have pushed := pushAt_guarded guarded envelope now
        simp only [perform, Prod.map_snd, id, admission, pushed,
          QueueCall.emergencyPushTime]
        split
        · exact ⟨_, rfl, rfl, Or.inr ⟨now, rfl, by simp⟩⟩
        · exact ⟨_, rfl, rfl, Or.inr ⟨now, rfl, rfl⟩⟩
      · have untimed : (QueueCall.pushAt envelope priority
            now).emergencyPushTime = none := by
          cases priority with
          | emergency => exact absurd rfl emergency
          | _ => rfl
        have unadmitted : queue.admission
            (.pushAt envelope priority now) = none := by
          cases priority with
          | emergency => exact absurd rfl emergency
          | _ => rfl
        refine ⟨guard, ?_, rfl, Or.inl ⟨untimed, by simp [unadmitted]⟩⟩
        simp [perform, pushAt_other emergency, guarded]
  | restoreAt envelope priority time =>
      cases priority with
      | emergency =>
          refine ⟨guard.record time, ?_, rfl, Or.inl ⟨rfl, rfl⟩⟩
          simp [perform, restoreAt, guarded]
      | _ =>
          refine ⟨guard, guarded, rfl, Or.inl ⟨rfl, ?_⟩⟩
          simp [admission]
  | pop =>
      refine ⟨guard, ?_, rfl, Or.inl ⟨rfl, by simp [admission]⟩⟩
      unfold perform pop
      cases queue.heap.pop with
      | none => exact guarded
      | some popped => exact guarded

end OutboundTxQueue

/-- A guard keeps the last of the entries admitted at `times`, and no prune
at a time after all `pushes` can tell them from all. -/
structure EmergencyGuard.Remembers (guard : EmergencyGuard)
    (config : EmergencyGuardConfig) (times pushes : List UInt64) : Prop where
  sameConfig : guard.config = config
  suffix : guard.history <:+ times
  pruned : ∀ later, (∀ push ∈ pushes, push ≤ later) →
    (expiry config.window.asSecs).prune later guard.history =
      (expiry config.window.asSecs).prune later times

namespace OutboundTxQueue

theorem remembers_performAll (config : EmergencyGuardConfig)
    (calls : List QueueCall) :
    let start := withEmergencyGuard config
    ∃ guard, (start.performAll calls).emergencyGuard = some guard ∧
      guard.Remembers config (start.admissions calls)
        (calls.filterMap QueueCall.emergencyPushTime) := by
  intro start
  induction calls using List.reverseRecOn with
  | nil =>
      exact ⟨.new config, rfl, rfl, List.suffix_refl _, fun _ _ => rfl⟩
  | append_singleton calls call induction =>
      obtain ⟨guard, guarded, sameConfig, suffix, pruned⟩ := induction
      obtain ⟨after, remains, kept, recorded⟩ := guard_perform guarded call
      rw [performAll_snoc, admissions_snoc, List.filterMap_append]
      refine ⟨after, remains, kept.trans sameConfig, ?_, ?_⟩
      · rcases recorded with ⟨-, recorded⟩ | ⟨now, -, recorded⟩
        · rw [recorded]
          exact List.suffix_append_inj_of_length_eq rfl |>.mpr ⟨suffix, rfl⟩
        · have dropped : (guard.prune now).history <:+ guard.history :=
            List.dropWhile_suffix _
          rw [recorded]
          exact List.suffix_append_inj_of_length_eq rfl |>.mpr
            ⟨dropped.trans suffix, rfl⟩
      · intro later above
        have earlier := pruned later fun push member =>
          above push (List.mem_append_left _ member)
        rcases recorded with ⟨-, recorded⟩ | ⟨now, pushed, recorded⟩
        · rw [recorded]
          exact Expiry.prune_append earlier _
        · have ordered : now ≤ later :=
            above now (List.mem_append_right _ (by simp [pushed]))
          rw [recorded]
          apply Expiry.prune_append
          rw [guard.history_prune, sameConfig, Expiry.prune_prune ordered]
          exact earlier

end OutboundTxQueue

/-! The limit as its configuration states it. -/

namespace EmergencyGuardConfig

/-- Whether an entry of `time` is younger than the window at `now`. -/
def within (config : EmergencyGuardConfig) (now time : UInt64) : Bool :=
  (now.toNat - time.toNat) * 1000000000 < config.window.asNanos

/-- Entries older than the whole seconds of the window that were recorded
after one that is not. -/
def hidden (config : EmergencyGuardConfig) (now : UInt64)
    (times : List UInt64) : Nat :=
  let younger := (EmergencyGuard.expiry config.window.asSecs).fresh now
  (times.dropWhile fun time => !younger time).countP fun time => !younger time

/-- Entries whose age is the whole seconds of a window that has a fraction of
a second besides. -/
def atEdge (config : EmergencyGuardConfig) (now : UInt64)
    (times : List UInt64) : Nat :=
  times.countP fun time =>
    config.window.subsecNanos.val ≠ 0 ∧
      now.toNat - time.toNat = config.window.secs.toNat

/-- Entries younger than the whole seconds of the window. -/
def younger (config : EmergencyGuardConfig) (now : UInt64)
    (times : List UInt64) : Nat :=
  times.countP ((EmergencyGuard.expiry config.window.asSecs).fresh now)

theorem countP_within (config : EmergencyGuardConfig) (now : UInt64)
    (times : List UInt64) :
    times.countP (config.within now) =
      config.younger now times + config.atEdge now times := by
  unfold younger atEdge
  induction times with
  | nil => rfl
  | cons time rest induction =>
      have bound := config.window.subsecNanos.isLt
      have inside : config.within now time = true ↔
          now.toNat - time.toNat < config.window.secs.toNat ∨
            (config.window.subsecNanos.val ≠ 0 ∧
              now.toNat - time.toNat = config.window.secs.toNat) := by
        rw [within, decide_eq_true_iff, Duration.asNanos]
        omega
      simp only [List.countP_cons, induction, inside,
        EmergencyGuard.expiry_fresh_iff, Duration.asSecs, decide_eq_true_eq]
      split_ifs <;> omega

theorem length_prune (config : EmergencyGuardConfig) (now : UInt64)
    (times : List UInt64) :
    ((EmergencyGuard.expiry config.window.asSecs).prune now times).length =
      config.younger now times + config.hidden now times :=
  Expiry.length_prune _ _ _

end EmergencyGuardConfig

/-- What the documentation of the guard says of one call, made when Emergency
entries had been admitted at `times`. -/
def OutboundTxQueue.GuardedExactly (queue : OutboundTxQueue)
    (config : EmergencyGuardConfig) (times : List UInt64)
    (envelope : TransactionEnvelope) (priority : TxPriority)
    (now : UInt64) : Prop :=
  let pushed := queue.pushAt envelope priority now
  if priority = .emergency then
    ((∃ error, pushed.1 = .error error) ↔
        config.maxCount ≤ times.countP (config.within now)) ∧
      ((∃ error, pushed.1 = .error error) →
        pushed.2.heap = queue.heap)
  else
    pushed.1 = .ok ()

namespace OutboundTxQueue

/-- An Emergency push after all others is rejected exactly when the window is
full, unless the entries hidden behind a younger one and those at the edge of
the window make a difference to that. -/
theorem guardedExactly_emergency_iff (config : EmergencyGuardConfig)
    {before : List QueueCall} {now : UInt64}
    (above : ∀ push ∈ before.filterMap QueueCall.emergencyPushTime,
      push ≤ now) (envelope : TransactionEnvelope) :
    let times := (withEmergencyGuard config).admissions before
    ((withEmergencyGuard config).performAll before).GuardedExactly config
        times envelope .emergency now ↔
      (config.maxCount ≤
          config.younger now times + config.hidden now times ↔
        config.maxCount ≤
          config.younger now times + config.atEdge now times) := by
  intro times
  obtain ⟨guard, guarded, sameConfig, -, pruned⟩ :=
    remembers_performAll config before
  have length : (guard.prune now).history.length =
      config.younger now times + config.hidden now times := by
    rw [guard.history_prune, sameConfig, pruned now above,
      config.length_prune]
  have pushed := pushAt_guarded guarded envelope now
  rw [length, sameConfig] at pushed
  unfold GuardedExactly
  rw [if_pos rfl, pushed, config.countP_within]
  split
  · rename_i full
    simp [full]
  · rename_i room
    simp [room]

/-- Pushes at times that do not decrease are rejected exactly when the window
is full, as long as the entries hidden behind a younger one make up for those
at the edge of the window. -/
theorem guardedExactly_iff (config : EmergencyGuardConfig)
    (calls : List QueueCall)
    (ordered : (calls.filterMap QueueCall.emergencyPushTime).Pairwise
      (· ≤ ·)) :
    let start := withEmergencyGuard config
    (∀ before envelope priority now after,
        calls = before ++ .pushAt envelope priority now :: after →
        (start.performAll before).GuardedExactly config
          (start.admissions before) envelope priority now) ↔
      ∀ before envelope now after,
        calls = before ++ .pushAt envelope .emergency now :: after →
        let times := start.admissions before
        (config.maxCount ≤
            config.younger now times + config.hidden now times ↔
          config.maxCount ≤
            config.younger now times + config.atEdge now times) := by
  intro start
  have above (before : List QueueCall) (envelope : TransactionEnvelope)
      (now : UInt64) (after : List QueueCall)
      (split : calls = before ++ .pushAt envelope .emergency now :: after) :
      ∀ push ∈ before.filterMap QueueCall.emergencyPushTime, push ≤ now := by
    rw [split, List.filterMap_append, List.pairwise_append] at ordered
    intro push member
    exact ordered.2.2 push member now (by simp [QueueCall.emergencyPushTime])
  constructor
  · intro exact before envelope now after split
    exact (guardedExactly_emergency_iff config
      (above before envelope now after split) envelope).mp
      (exact before envelope .emergency now after split)
  · intro balanced before envelope priority now after split
    by_cases same : priority = .emergency
    · subst same
      exact (guardedExactly_emergency_iff config
        (above before envelope now after split) envelope).mpr
        (balanced before envelope now after split)
    · unfold GuardedExactly
      rw [if_neg same, pushAt_other same]

/-- Rows read back out of order: the one of 100 is behind the one of 1000, and
still counts at 1010. -/
theorem restored_out_of_order_rejects :
    let config : EmergencyGuardConfig := ⟨2, ⟨60, 0⟩⟩
    let envelope : TransactionEnvelope := ⟨Vector.replicate 32 1,
      Vector.replicate 32 2, "", 10, 0, Vector.replicate 64 3⟩
    let start := withEmergencyGuard config
    let before : List QueueCall := [.restoreAt envelope .emergency 1000,
      .restoreAt envelope .emergency 100]
    start.admissions before = [1000, 100] ∧
      (start.admissions before).countP (config.within 1010) = 1 ∧
      ((start.performAll before).pushAt envelope .emergency 1010).1 =
        .error (.emergencyQueueLimitExceeded 2 2 60) ∧
      ¬ (start.performAll before).GuardedExactly config
        (start.admissions before) envelope .emergency 1010 := by
  intro config envelope start before
  have inWindow :
      (start.admissions before).countP (config.within 1010) = 1 := by
    decide
  have rejected :
      ((start.performAll before).pushAt envelope .emergency 1010).1 =
        .error (.emergencyQueueLimitExceeded 2 2 60) := rfl
  refine ⟨by decide, inWindow, rejected, ?_⟩
  intro exact
  have full := exact.1.mp ⟨_, rejected⟩
  rw [inWindow] at full
  exact absurd full (by decide)

/-- A restart restores an entry, which then rejects one push and no longer
rejects another. -/
theorem guardedExactly_restart :
    let config : EmergencyGuardConfig := ⟨1, ⟨60, 0⟩⟩
    let envelope : TransactionEnvelope := ⟨Vector.replicate 32 1,
      Vector.replicate 32 2, "", 10, 0, Vector.replicate 64 3⟩
    let start := withEmergencyGuard config
    let calls : List QueueCall := [.restoreAt envelope .emergency 1000,
      .pushAt envelope .emergency 1030, .pushAt envelope .emergency 1060]
    start.admissions calls = [1000, 1060] ∧
    ∀ before envelope priority now after,
      calls = before ++ .pushAt envelope priority now :: after →
      (start.performAll before).GuardedExactly config
        (start.admissions before) envelope priority now := by
  intro config envelope start calls
  refine ⟨by decide, ?_⟩
  apply (guardedExactly_iff config calls (by decide)).mpr
  intro before pushed now after split
  rcases before with _ | ⟨first, _ | ⟨second, _ | ⟨third, rest⟩⟩⟩
  · simp [calls] at split
  · simp only [calls, List.cons_append, List.nil_append, List.cons.injEq,
      QueueCall.pushAt.injEq] at split
    obtain ⟨rfl, ⟨-, -, rfl⟩, -⟩ := split
    decide
  · simp only [calls, List.cons_append, List.nil_append, List.cons.injEq,
      QueueCall.pushAt.injEq] at split
    obtain ⟨rfl, rfl, ⟨-, -, rfl⟩, -⟩ := split
    decide
  · have lengths := congrArg List.length split
    simp [calls] at lengths

/-! Pushes only, at any times. -/

/-- Emergency pushes of envelopes, at the times beside them. -/
def emergencyPushes (pushes : List (TransactionEnvelope × UInt64)) :
    List QueueCall :=
  pushes.map fun (envelope, now) => .pushAt envelope .emergency now

theorem emergencyPushes_append
    (before after : List (TransactionEnvelope × UInt64)) :
    emergencyPushes (before ++ after) =
      emergencyPushes before ++ emergencyPushes after :=
  List.map_append

end OutboundTxQueue

namespace EmergencyGuard

/-- What of `times` a guard that keeps their last has forgotten. -/
def forgotten (guard : EmergencyGuard) (times : List UInt64) : List UInt64 :=
  times.take (times.length - guard.history.length)

end EmergencyGuard

theorem EmergencyGuard.check_ok_iff (guard : EmergencyGuard) (now : UInt64) :
    (guard.check now).1 = .ok () ↔
      (guard.prune now).history.length < guard.config.maxCount := by
  have sameConfig : (guard.prune now).config = guard.config := rfl
  simp only [EmergencyGuard.check, sameConfig]
  split
  · rename_i full
    simp only [reduceCtorEq, false_iff]
    exact Nat.not_lt.mpr full
  · rename_i room
    simp only [true_iff]
    exact Nat.not_le.mp room

/-- The half-open interval from `low` that is as long as the window. -/
def EmergencyGuardConfig.spans (config : EmergencyGuardConfig) (low : Nat)
    (time : UInt64) : Bool :=
  low ≤ time.toNat ∧ time.toNat < low + config.window.secs.toNat

namespace OutboundTxQueue

/-- No interval as long as the window holds more admissions than allowed. -/
def Capped (config : EmergencyGuardConfig) (times : List UInt64) : Prop :=
  ∀ low, times.countP (config.spans low) ≤ config.maxCount

theorem admission_of_check {queue : OutboundTxQueue} {guard : EmergencyGuard}
    (guarded : queue.emergencyGuard = some guard)
    (envelope : TransactionEnvelope) (now : UInt64) :
    queue.admission (.pushAt envelope .emergency now) =
      if (guard.check now).1 = .ok () then some now else none := by
  have pushed := pushAt_guarded guarded envelope now
  have admits := guard.check_ok_iff now
  unfold admission
  by_cases full : guard.config.maxCount ≤ (guard.prune now).history.length
  · rw [if_pos full] at pushed
    rw [if_neg (fun admitted => Nat.not_lt.mpr full (admits.mp admitted))]
    simp only [pushed]
  · rw [if_neg full] at pushed
    rw [if_pos (admits.mpr (Nat.not_le.mp full))]
    simp only [pushed]

/-- An interval that holds `now` and nothing that was forgotten has room for
one more when the guard has. -/
theorem room_of_remembered {guard : EmergencyGuard} {times : List UInt64}
    {config : EmergencyGuardConfig} {now : UInt64} {low : Nat}
    (sameConfig : guard.config = config) (suffix : guard.history <:+ times)
    (room : (guard.prune now).history.length < config.maxCount)
    (spansNow : config.spans low now = true)
    (remembered : ∀ time ∈ guard.forgotten times,
      config.spans low time = false) :
    times.countP (config.spans low) < config.maxCount := by
  have outside {dropped : List UInt64}
      (away : ∀ time ∈ dropped, config.spans low time = false) :
      dropped.countP (config.spans low) = 0 := by
    rw [List.countP_eq_zero]
    intro time member
    simp [away time member]
  obtain ⟨pruned, split, expired⟩ :=
    (EmergencyGuard.expiry config.window.asSecs).exists_pruned now
      guard.history
  have stale : ∀ time ∈ pruned, config.spans low time = false := by
    intro time member
    have old : ¬ now.toNat - time.toNat < config.window.asSecs.toNat := by
      rw [← EmergencyGuard.expiry_fresh_iff, expired time member]
      exact Bool.false_ne_true
    simp only [EmergencyGuardConfig.spans, decide_eq_true_eq,
      decide_eq_false_iff_not, Duration.asSecs] at *
    omega
  have kept := guard.history_prune now
  rw [sameConfig] at kept
  calc times.countP (config.spans low)
      = (guard.forgotten times ++ guard.history).countP
          (config.spans low) := by
        rw [EmergencyGuard.forgotten, List.suffix_iff_eq_append.mp suffix]
    _ = guard.history.countP (config.spans low) := by
        rw [List.countP_append, outside remembered, Nat.zero_add]
    _ = (guard.prune now).history.countP (config.spans low) := by
        rw [kept]
        conv_lhs => rw [split]
        rw [List.countP_append, outside stale, Nat.zero_add]
    _ ≤ (guard.prune now).history.length := List.countP_le_length
    _ < config.maxCount := room

/-- An interval has room when the guard has, if what was forgotten leaves room
there. -/
theorem room_of_guard {guard : EmergencyGuard} {times : List UInt64}
    {config : EmergencyGuardConfig} {now : UInt64} {low : Nat}
    (sameConfig : guard.config = config) (suffix : guard.history <:+ times)
    (room : (guard.prune now).history.length < config.maxCount)
    (spansNow : config.spans low now = true)
    (roomy : (∃ time ∈ guard.forgotten times,
        config.spans low time = true) →
      times.countP (config.spans low) < config.maxCount) :
    times.countP (config.spans low) < config.maxCount := by
  by_cases lost : ∃ time ∈ guard.forgotten times,
      config.spans low time = true
  · exact roomy lost
  · apply room_of_remembered sameConfig suffix room spansNow
    intro time member
    rw [← Bool.not_eq_true]
    exact fun inside => lost ⟨time, member, inside⟩

/-- The cap holds exactly when the guard has no room left for a push into a
full interval that holds an entry it has forgotten. -/
theorem capped_iff (config : EmergencyGuardConfig)
    (pushes : List (TransactionEnvelope × UInt64)) :
    let start := withEmergencyGuard config
    Capped config (start.admissions (emergencyPushes pushes)) ↔
      ∀ before envelope now after,
        pushes = before ++ (envelope, now) :: after →
        let times := start.admissions (emergencyPushes before)
        ∀ guard ∈ (start.performAll (emergencyPushes before)).emergencyGuard,
        (guard.prune now).history.length < config.maxCount →
        ∀ low, config.spans low now = true →
          (∃ time ∈ guard.forgotten times, config.spans low time = true) →
          times.countP (config.spans low) < config.maxCount := by
  intro start
  constructor
  · intro capped before envelope now after split times guard guarded room low
      spansNow _
    obtain ⟨_, held, sameConfig, -, -⟩ :=
      remembers_performAll config (emergencyPushes before)
    obtain rfl := Option.mem_unique guarded held
    have whole := capped low
    have recorded := admission_of_check guarded envelope now
    rw [← sameConfig] at room
    rw [if_pos ((guard.check_ok_iff now).mpr room)] at recorded
    have pushed : emergencyPushes ((envelope, now) :: after) =
        .pushAt envelope .emergency now :: emergencyPushes after := rfl
    rw [split, emergencyPushes_append, admissions_append, pushed,
      admissions_cons, recorded] at whole
    simp only [Option.toList_some, List.countP_append, List.countP_cons,
      List.countP_nil, spansNow, if_true] at whole
    show (start.admissions (emergencyPushes before)).countP
      (config.spans low) < config.maxCount
    omega
  · intro roomy
    induction pushes using List.reverseRecOn with
    | nil =>
        intro low
        exact Nat.zero_le _
    | append_singleton pushes push induction =>
        obtain ⟨envelope, now⟩ := push
        have earlier := induction fun before envelope now after split =>
          roomy before envelope now _ (by rw [split, List.append_assoc,
            List.cons_append])
        intro low
        obtain ⟨guard, guarded, sameConfig, suffix, -⟩ :=
          remembers_performAll config (emergencyPushes pushes)
        have last := roomy pushes envelope now [] rfl guard guarded
        have snoc : emergencyPushes (pushes ++ [(envelope, now)]) =
            emergencyPushes pushes ++ [.pushAt envelope .emergency now] :=
          emergencyPushes_append _ _
        rw [snoc, admissions_snoc, admission_of_check guarded,
          List.countP_append]
        have before := earlier low
        split
        · rename_i admitted
          cases spansNow : config.spans low now with
          | false =>
              simpa [spansNow] using before
          | true =>
              rw [guard.check_ok_iff, sameConfig] at admitted
              have room := room_of_guard sameConfig suffix admitted spansNow
                (last admitted low spansNow)
              simpa [spansNow] using Nat.succ_le_of_lt room
        · simpa using before

/-- A step forward to 200 makes the guard forget the entries of 100 and 101,
which one of 102 then joins. -/
theorem clock_step_exceeds_cap :
    let config : EmergencyGuardConfig := ⟨2, ⟨10, 0⟩⟩
    let envelope : TransactionEnvelope := ⟨Vector.replicate 32 1,
      Vector.replicate 32 2, "", 10, 0, Vector.replicate 64 3⟩
    let times := (withEmergencyGuard config).admissions (emergencyPushes
      [(envelope, 100), (envelope, 101), (envelope, 200), (envelope, 102)])
    times = [100, 101, 200, 102] ∧ times.countP (config.spans 100) = 3 ∧
      ¬ Capped config times := by
  intro config envelope times
  have admitted : times = [100, 101, 200, 102] := by decide
  have inside : times.countP (config.spans 100) = 3 := by
    rw [admitted]
    decide
  refine ⟨admitted, inside, ?_⟩
  intro capped
  have within := capped 100
  rw [inside] at within
  exact absurd within (by decide)

end OutboundTxQueue

end StellarConduit
