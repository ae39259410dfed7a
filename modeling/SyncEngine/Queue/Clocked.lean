import SyncEngine.Queue.EmergencyGuard

namespace StellarConduit

open Data

/-! Emergency times that do not decrease. -/

namespace EmergencyGuardConfig

/-- Behind an entry that is younger than the window all others are. -/
theorem hidden_of_ordered (config : EmergencyGuardConfig) (now : UInt64)
    {times : List UInt64} (ordered : times.Pairwise (· ≤ ·)) :
    config.hidden now times = 0 := by
  unfold hidden
  induction times with
  | nil => rfl
  | cons time rest induction =>
      obtain ⟨first, ordered⟩ := List.pairwise_cons.mp ordered
      dsimp only
      cases isFresh : (EmergencyGuard.expiry config.window.asSecs).fresh now
          time with
      | false =>
          rw [List.dropWhile_cons_of_pos (by simp [isFresh])]
          exact induction ordered
      | true =>
          rw [List.dropWhile_cons_of_neg (by simp [isFresh]),
            List.countP_eq_zero]
          intro other member
          have above : time ≤ other := by
            rcases List.mem_cons.mp member with rfl | behind
            · exact UInt64.le_refl _
            · exact first other behind
          rw [UInt64.le_iff_toNat_le] at above
          rw [EmergencyGuard.expiry_fresh_iff] at isFresh
          have young : (EmergencyGuard.expiry config.window.asSecs).fresh now
              other = true := by
            rw [EmergencyGuard.expiry_fresh_iff]
            omega
          simp [young]

/-- An interval that holds `now` holds no entry that is as old as the
window. -/
theorem countP_spans_le (config : EmergencyGuardConfig) {now : UInt64}
    {low : Nat} (spansNow : config.spans low now = true)
    (times : List UInt64) :
    times.countP (config.spans low) ≤ config.younger now times := by
  apply List.countP_mono_left
  intro time _ inside
  rw [EmergencyGuard.expiry_fresh_iff]
  simp only [spans, decide_eq_true_eq, Duration.asSecs] at *
  omega

end EmergencyGuardConfig

namespace QueueCall

/-- The time of an Emergency entry that a call brings. -/
def emergencyTime : QueueCall → Option UInt64
  | .pushAt _ .emergency now => some now
  | .restoreAt _ .emergency time => some time
  | _ => none

theorem emergencyTime_of_push {call : QueueCall} {now : UInt64}
    (pushed : call.emergencyPushTime = some now) :
    call.emergencyTime = some now := by
  unfold emergencyPushTime at pushed
  split at pushed
  · exact pushed
  · cases pushed

end QueueCall

namespace OutboundTxQueue

theorem admission_brought {queue : OutboundTxQueue} {call : QueueCall}
    {time : UInt64} (admitted : queue.admission call = some time) :
    call.emergencyTime = some time := by
  unfold admission at admitted
  split at admitted
  · split at admitted
    · exact admitted
    · cases admitted
  · exact admitted
  · cases admitted

theorem admissions_sublist (queue : OutboundTxQueue)
    (calls : List QueueCall) :
    (queue.admissions calls).Sublist
      (calls.filterMap QueueCall.emergencyTime) := by
  induction calls generalizing queue with
  | nil => exact List.Sublist.refl _
  | cons call rest induction =>
      have later := induction (queue.perform call).2
      rw [admissions_cons]
      cases admitted : queue.admission call with
      | some time =>
          rw [List.filterMap_cons_some (admission_brought admitted)]
          exact later.cons_cons time
      | none =>
          cases brought : call.emergencyTime with
          | some time =>
              rw [List.filterMap_cons_some brought]
              exact later.cons time
          | none =>
              rw [List.filterMap_cons_none brought]
              exact later

variable (config : EmergencyGuardConfig)

/-- A push after all other Emergency entries is rejected exactly when the
window is full of admitted ones. -/
theorem pushAt_of_ordered {before : List QueueCall} {now : UInt64}
    (ordered : (before.filterMap QueueCall.emergencyTime).Pairwise (· ≤ ·))
    (above : ∀ time ∈ before.filterMap QueueCall.emergencyTime, time ≤ now)
    (envelope : TransactionEnvelope) :
    let start := withEmergencyGuard config
    let queue := start.performAll before
    let count := config.younger now (start.admissions before)
    let pushed := queue.pushAt envelope .emergency now
    if config.maxCount ≤ count then
      pushed.1 = .error (.emergencyQueueLimitExceeded count config.maxCount
          config.window.asSecs) ∧
        pushed.2.heap = queue.heap
    else
      pushed.1 = .ok () ∧
        pushed.2.heap = queue.heap.push ⟨.emergency, now, envelope⟩ := by
  intro start queue count pushed
  obtain ⟨guard, guarded, sameConfig, -, pruned⟩ :=
    remembers_performAll config before
  have latest : ∀ push ∈ before.filterMap QueueCall.emergencyPushTime,
      push ≤ now := by
    intro push member
    obtain ⟨call, listed, isPush⟩ := List.mem_filterMap.mp member
    exact above push (List.mem_filterMap.mpr
      ⟨call, listed, QueueCall.emergencyTime_of_push isPush⟩)
  have length : (guard.prune now).history.length = count := by
    rw [guard.history_prune, sameConfig, pruned now latest,
      config.length_prune,
      config.hidden_of_ordered now
        (ordered.sublist (admissions_sublist start before)), Nat.add_zero]
  have result := pushAt_guarded guarded envelope now
  rw [EmergencyGuard.limitExceeded, length, sameConfig] at result
  by_cases full : config.maxCount ≤ count
  · rw [if_pos full] at result ⊢
    exact ⟨congrArg Prod.fst result,
      congrArg (fun pushed => pushed.2.heap) result⟩
  · rw [if_neg full] at result ⊢
    exact ⟨congrArg Prod.fst result,
      congrArg (fun pushed => pushed.2.heap) result⟩

/-- No push that is admitted takes an interval over the limit. -/
theorem countP_admission_le {before : List QueueCall}
    {envelope : TransactionEnvelope} {priority : TxPriority} {now : UInt64}
    {bound : Nat} (limit : config.maxCount ≤ bound)
    (ordered : ((before ++
      [QueueCall.pushAt envelope priority now]).filterMap
        QueueCall.emergencyTime).Pairwise (· ≤ ·)) {low : Nat}
    (kept : ((withEmergencyGuard config).admissions before).countP
      (config.spans low) ≤ bound) :
    ((withEmergencyGuard config).admissions
      (before ++ [.pushAt envelope priority now])).countP
        (config.spans low) ≤ bound := by
  rw [List.filterMap_append, List.pairwise_append] at ordered
  rw [admissions_snoc, List.countP_append]
  cases priority with
  | emergency =>
      have result := pushAt_of_ordered config ordered.1
        (fun time member => ordered.2.2 time member now
          (by simp [QueueCall.emergencyTime])) envelope
      unfold admission
      dsimp only at result ⊢
      split at result
      · rw [result.1]
        simpa using kept
      · rename_i room
        rw [result.1]
        cases spansNow : config.spans low now with
        | false => simpa [spansNow] using kept
        | true =>
            have inside := config.countP_spans_le spansNow
              ((withEmergencyGuard config).admissions before)
            simp only [Option.toList_some, List.countP_cons, spansNow,
              List.countP_nil, if_true]
            omega
  | low => simpa [admission] using kept
  | normal => simpa [admission] using kept

end OutboundTxQueue

/-! The queue of one process, under the clock of that process. -/

structure HybridClock where
  baselineWallSecs : UInt64

namespace HybridClock

/-- The time at `elapsed` seconds after the clock was made. -/
def nowSecs (clock : HybridClock) (elapsed : UInt64) : UInt64 :=
  clock.baselineWallSecs + elapsed

end HybridClock

inductive ClockedCall
  | push (envelope : TransactionEnvelope) (priority : TxPriority)
      (elapsed : UInt64)
  | pop

namespace ClockedCall

/-- What the monotonic clock shows at a push. -/
def reading : ClockedCall → Option UInt64
  | .push _ _ elapsed => some elapsed
  | .pop => none

def stamped (clock : HybridClock) : ClockedCall → QueueCall
  | .push envelope priority elapsed =>
      .pushAt envelope priority (clock.nowSecs elapsed)
  | .pop => .pop

end ClockedCall

/-- The readings do not decrease, and no time overflows. -/
structure HybridClock.Paces (clock : HybridClock) (calls : List ClockedCall) :
    Prop where
  ordered : (calls.filterMap ClockedCall.reading).Pairwise (· ≤ ·)
  bounded : ∀ elapsed ∈ calls.filterMap ClockedCall.reading,
    clock.baselineWallSecs.toNat + elapsed.toNat < 2 ^ 64

namespace OutboundTxQueue

def push (queue : OutboundTxQueue) (clock : HybridClock) (elapsed : UInt64)
    (envelope : TransactionEnvelope) (priority : TxPriority) :
    Except SyncEngineError Unit × OutboundTxQueue :=
  queue.pushAt envelope priority (clock.nowSecs elapsed)

def restoreCalls (rows : List QueuedTx) : List QueueCall :=
  rows.map fun row => .restoreAt row.envelope row.priority row.enqueuedAt

/-- A guarded queue that the stored rows have been restored into. -/
def restored (config : EmergencyGuardConfig) (rows : List QueuedTx) :
    OutboundTxQueue :=
  (withEmergencyGuard config).performAll (restoreCalls rows)

/-- The times of the Emergency rows. -/
def emergencyTimes (rows : List QueuedTx) : List UInt64 :=
  (rows.filter fun row => row.priority = .emergency).map QueuedTx.enqueuedAt

theorem admissions_restoreCalls (queue : OutboundTxQueue)
    (rows : List QueuedTx) :
    queue.admissions (restoreCalls rows) = emergencyTimes rows := by
  unfold restoreCalls emergencyTimes
  induction rows generalizing queue with
  | nil => rfl
  | cons row rest induction =>
      rw [List.map_cons, admissions_cons, induction]
      obtain ⟨priority, time, envelope⟩ := row
      cases priority <;> rfl

theorem emergencyTime_restoreCalls (rows : List QueuedTx) :
    (restoreCalls rows).filterMap QueueCall.emergencyTime =
      emergencyTimes rows := by
  unfold restoreCalls emergencyTimes
  induction rows with
  | nil => rfl
  | cons row rest induction =>
      rw [List.map_cons, List.filterMap_cons, induction]
      obtain ⟨priority, time, envelope⟩ := row
      cases priority <;> rfl

end OutboundTxQueue

namespace HybridClock

variable {clock : HybridClock}

theorem toNat_nowSecs {elapsed : UInt64}
    (bounded : clock.baselineWallSecs.toNat + elapsed.toNat < 2 ^ 64) :
    (clock.nowSecs elapsed).toNat =
      clock.baselineWallSecs.toNat + elapsed.toNat := by
  rw [nowSecs, UInt64.toNat_add, Nat.mod_eq_of_lt bounded]

theorem times_sublist (clock : HybridClock) (calls : List ClockedCall) :
    ((calls.map (·.stamped clock)).filterMap
      QueueCall.emergencyTime).Sublist
        ((calls.filterMap ClockedCall.reading).map clock.nowSecs) := by
  induction calls with
  | nil => exact List.Sublist.refl _
  | cons call rest induction =>
      cases call with
      | pop => exact induction
      | push envelope priority elapsed =>
          cases priority with
          | emergency => exact induction.cons_cons _
          | low => exact induction.cons _
          | normal => exact induction.cons _

/-- The clock of a session that is paced does not go back, nor before the rows
that were restored. -/
theorem Paces.ordered_times {calls : List ClockedCall}
    (paced : clock.Paces calls) {rows : List QueuedTx}
    (ordered : (OutboundTxQueue.emergencyTimes rows).Pairwise (· ≤ ·))
    (past : ∀ time ∈ OutboundTxQueue.emergencyTimes rows,
      time ≤ clock.baselineWallSecs) :
    ((OutboundTxQueue.restoreCalls rows ++
      calls.map (·.stamped clock)).filterMap
        QueueCall.emergencyTime).Pairwise (· ≤ ·) := by
  have readings : ((calls.filterMap ClockedCall.reading).map
      clock.nowSecs).Pairwise (· ≤ ·) := by
    rw [List.pairwise_map]
    apply paced.ordered.imp_of_mem
    intro first second early late before
    rw [UInt64.le_iff_toNat_le] at before ⊢
    rw [toNat_nowSecs (paced.bounded first early),
      toNat_nowSecs (paced.bounded second late)]
    omega
  rw [List.filterMap_append, OutboundTxQueue.emergencyTime_restoreCalls,
    List.pairwise_append]
  refine ⟨ordered, readings.sublist (times_sublist clock calls), ?_⟩
  intro time stored later member
  obtain ⟨elapsed, read, rfl⟩ := List.mem_map.mp
    ((times_sublist clock calls).subset member)
  have bounded := past time stored
  rw [UInt64.le_iff_toNat_le] at bounded ⊢
  rw [toNat_nowSecs (paced.bounded elapsed read)]
  omega

theorem Paces.before {earlier later : List ClockedCall}
    (paced : clock.Paces (earlier ++ later)) : clock.Paces earlier := by
  obtain ⟨ordered, bounded⟩ := paced
  rw [List.filterMap_append] at ordered bounded
  exact ⟨(List.pairwise_append.mp ordered).1,
    fun elapsed member => bounded elapsed (List.mem_append_left _ member)⟩

end HybridClock

namespace OutboundTxQueue

variable {config : EmergencyGuardConfig} {clock : HybridClock}
  {rows : List QueuedTx} {calls : List ClockedCall}

/-- The times of the Emergency entries after the calls of a session: of those
restored and of those admitted since. -/
def sessionTimes (config : EmergencyGuardConfig) (clock : HybridClock)
    (rows : List QueuedTx) (calls : List ClockedCall) : List UInt64 :=
  emergencyTimes rows ++
    (restored config rows).admissions (calls.map (·.stamped clock))

theorem sessionTimes_eq : sessionTimes config clock rows calls =
    (withEmergencyGuard config).admissions
      (restoreCalls rows ++ calls.map (·.stamped clock)) := by
  rw [admissions_append, admissions_restoreCalls]
  rfl

/-- No interval as long as the window holds more entries than allowed, or than
were restored into it. -/
theorem countP_sessionTimes_le (paced : clock.Paces calls)
    (ordered : (emergencyTimes rows).Pairwise (· ≤ ·))
    (past : ∀ time ∈ emergencyTimes rows, time ≤ clock.baselineWallSecs)
    (low : Nat) :
    (sessionTimes config clock rows calls).countP (config.spans low) ≤
      max config.maxCount ((emergencyTimes rows).countP
        (config.spans low)) := by
  induction calls using List.reverseRecOn with
  | nil =>
      rw [sessionTimes, List.map_nil]
      simp [admissions]
  | append_singleton earlier call induction =>
      have kept := induction paced.before
      have times := paced.ordered_times ordered past
      rw [sessionTimes_eq] at kept ⊢
      rw [List.map_append, ← List.append_assoc] at times ⊢
      cases call with
      | push envelope priority elapsed =>
          exact countP_admission_le config (Nat.le_max_left _ _) times kept
      | pop =>
          rw [List.map_singleton, admissions_snoc]
          simpa [ClockedCall.stamped, admission] using kept

/-- In a session that begins with the stored rows, an Emergency push is
rejected exactly when the window is full, without a change to the queue, no
other push is rejected, and the limit holds of every interval as long as the
window that the rows did not break it in. -/
theorem session_guarded (paced : clock.Paces calls)
    (ordered : (emergencyTimes rows).Pairwise (· ≤ ·))
    (past : ∀ time ∈ emergencyTimes rows, time ≤ clock.baselineWallSecs) :
    (∀ before envelope priority elapsed after,
      calls = before ++ .push envelope priority elapsed :: after →
      let queue := (restored config rows).performAll
        (before.map (·.stamped clock))
      let now := clock.nowSecs elapsed
      let count := config.younger now (sessionTimes config clock rows before)
      let pushed := queue.push clock elapsed envelope priority
      if priority = .emergency ∧ config.maxCount ≤ count then
        pushed.1 = .error (.emergencyQueueLimitExceeded count config.maxCount
            config.window.asSecs) ∧
          pushed.2.heap = queue.heap
      else
        pushed.1 = .ok () ∧
          pushed.2.heap = queue.heap.push ⟨priority, now, envelope⟩) ∧
    ∀ low, (sessionTimes config clock rows calls).countP (config.spans low) ≤
      max config.maxCount ((emergencyTimes rows).countP
        (config.spans low)) := by
  refine ⟨?_, countP_sessionTimes_le paced ordered past⟩
  intro before envelope priority elapsed after split queue now count pushed
  have times := paced.ordered_times ordered past
  rw [split, List.map_append, List.map_cons, ← List.append_assoc,
    List.filterMap_append, List.pairwise_append] at times
  have whole : queue = (withEmergencyGuard config).performAll
      (restoreCalls rows ++ before.map (·.stamped clock)) :=
    (performAll_append _ _ _).symm
  by_cases emergency : priority = .emergency
  · subst emergency
    have result := pushAt_of_ordered config times.1
      (fun time member => times.2.2 time member now
        (List.mem_cons_self ..)) envelope
    dsimp only at result
    rw [← whole, ← sessionTimes_eq] at result
    simp only [true_and]
    exact result
  · have result : queue.pushAt envelope priority now = _ :=
      pushAt_other emergency envelope now
    rw [if_neg fun both => emergency both.1]
    exact ⟨congrArg Prod.fst result,
      congrArg (fun pushed => pushed.2.heap) result⟩

set_option maxRecDepth 8000 in
/-- A row of 990 has the push of 1005 rejected, and no longer that of 1050. -/
theorem session_guarded_restart :
    let config : EmergencyGuardConfig := ⟨1, ⟨60, 0⟩⟩
    let envelope : TransactionEnvelope := ⟨Vector.replicate 32 1,
      Vector.replicate 32 2, "", 10, 0, Vector.replicate 64 3⟩
    let clock : HybridClock := ⟨1000⟩
    let rows : List QueuedTx := [⟨.emergency, 990, envelope⟩]
    let first : ClockedCall := .push envelope .emergency 5
    let queue := restored config rows
    (queue.push clock 5 envelope .emergency).1 =
        .error (.emergencyQueueLimitExceeded 1 1 60) ∧
      ((queue.performAll [first.stamped clock]).push clock 50 envelope
        .emergency).1 = .ok () := by
  intro config envelope clock rows first queue
  have paced : clock.Paces [first, .push envelope .emergency 50] := by
    refine ⟨by decide, ?_⟩
    intro elapsed read
    have late : elapsed = 5 ∨ elapsed = 50 := by
      simpa [first, ClockedCall.reading] using read
    rcases late with rfl | rfl <;> decide
  have times : emergencyTimes rows = [990] := rfl
  have ordered : (emergencyTimes rows).Pairwise (· ≤ ·) := by
    rw [times]
    exact List.pairwise_singleton _ _
  have past : ∀ time ∈ emergencyTimes rows, time ≤ clock.baselineWallSecs := by
    intro time member
    rw [times] at member
    obtain rfl := List.mem_singleton.mp member
    decide
  have exactly := And.left
    (@session_guarded config clock rows _ paced ordered past)
  have rejected := exactly [] envelope .emergency 5
    [.push envelope .emergency 50] rfl
  have admitted := exactly [first] envelope .emergency 50 [] rfl
  have full : config.younger (clock.nowSecs 5)
      (sessionTimes config clock rows []) = 1 := by decide
  have room : config.younger (clock.nowSecs 50)
      (sessionTimes config clock rows [first]) = 0 := by decide
  dsimp only at rejected admitted
  rw [full, if_pos (by decide)] at rejected
  rw [room, if_neg (by decide)] at admitted
  exact ⟨rejected.1, admitted.1⟩

end OutboundTxQueue

end StellarConduit
