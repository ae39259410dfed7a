import SyncEngine.Data.BinaryHeap
import SyncEngine.Data.Machine
import SyncEngine.Envelope.Types

namespace StellarConduit

open Data

inductive TxPriority
  | low
  | normal
  | emergency
  deriving DecidableEq, Repr

namespace TxPriority

def toI64 : TxPriority → Int64
  | .low => 0
  | .normal => 1
  | .emergency => 2

def tryFromI64 (value : Int64) : Except SyncEngineError TxPriority :=
  if value = 0 then .ok .low
  else if value = 1 then .ok .normal
  else if value = 2 then .ok .emergency
  else .error (.invalidEnvelope s!"unknown TxPriority discriminant {value}")

@[simp] theorem tryFromI64_toI64 (priority : TxPriority) :
    tryFromI64 priority.toI64 = .ok priority := by
  cases priority <;> rfl

/-- The derived order, which is that of the discriminants. -/
instance : Ord TxPriority where
  compare first second := compare first.toI64 second.toI64

instance : Std.TransOrd TxPriority where
  eq_swap := Std.OrientedOrd.eq_swap (α := Int64)
  isLE_trans := Std.TransOrd.isLE_trans (α := Int64)

instance : Std.LawfulEqOrd TxPriority where
  eq_of_compare := by
    intro first second
    cases first <;> cases second <;> decide

end TxPriority

structure QueuedTx where
  priority : TxPriority
  enqueuedAt : UInt64
  envelope : TransactionEnvelope
  deriving DecidableEq

namespace QueuedTx

/-- `impl Ord for QueuedTx`: a higher tier is greater, and within a tier an
earlier enqueue is. -/
def cmp (first second : QueuedTx) : Ordering :=
  (compare first.priority second.priority).then
    (compare second.enqueuedAt first.enqueuedAt)

instance : Ord QueuedTx := ⟨cmp⟩

instance : Std.TransOrd QueuedTx :=
  have _latest : Std.TransCmp fun first second : QueuedTx =>
      compareOn enqueuedAt second first :=
    Std.TransCmp.opposite
  inferInstanceAs (Std.TransCmp (compareLex (compareOn priority)
    fun first second => compareOn enqueuedAt second first))

theorem leq_of_same_priority {first second : QueuedTx}
    (same : first.priority = second.priority) :
    leq first second = true ↔ second.enqueuedAt ≤ first.enqueuedAt := by
  have tie : compare first.priority second.priority = .eq := by
    rw [same]
    exact Std.ReflOrd.compare_self
  show (cmp first second).isLE = true ↔ _
  rw [cmp, tie]
  show (compare second.enqueuedAt first.enqueuedAt).isLE = true ↔ _
  exact Std.isLE_compare

end QueuedTx

structure Duration where
  secs : UInt64
  subsecNanos : Fin 1000000000

def Duration.asSecs (duration : Duration) : UInt64 := duration.secs

def Duration.asNanos (duration : Duration) : Nat :=
  duration.secs.toNat * 1000000000 + duration.subsecNanos

structure EmergencyGuardConfig where
  maxCount : Nat
  window : Duration

/-- The history is the deque of the source, oldest entry first. -/
structure EmergencyGuard where
  config : EmergencyGuardConfig
  history : List UInt64

namespace EmergencyGuard

def new (config : EmergencyGuardConfig) : EmergencyGuard := ⟨config, []⟩

def saturatingSub (first second : UInt64) : UInt64 :=
  if second ≤ first then first - second else 0

theorem toNat_saturatingSub (first second : UInt64) :
    (saturatingSub first second).toNat = first.toNat - second.toNat := by
  unfold saturatingSub
  split
  · rename_i within
    exact UInt64.toNat_sub_of_le _ _ within
  · rename_i beyond
    rw [UInt64.le_iff_toNat_le] at beyond
    show 0 = first.toNat - second.toNat
    omega

def prune (guard : EmergencyGuard) (now : UInt64) : EmergencyGuard :=
  { guard with
    history := guard.history.dropWhile fun oldest =>
      guard.config.window.asSecs ≤ saturatingSub now oldest }

/-- The pruned guard is kept also when the check rejects. -/
def check (guard : EmergencyGuard) (now : UInt64) :
    Except SyncEngineError Unit × EmergencyGuard :=
  let pruned := guard.prune now
  if pruned.history.length ≥ pruned.config.maxCount then
    (.error (.emergencyQueueLimitExceeded pruned.history.length
      pruned.config.maxCount pruned.config.window.asSecs), pruned)
  else
    (.ok (), pruned)

def record (guard : EmergencyGuard) (time : UInt64) : EmergencyGuard :=
  { guard with history := guard.history ++ [time] }

end EmergencyGuard

/-- The clock of the source is read by `push` only, which the engine does not
call. -/
structure OutboundTxQueue where
  heap : BinaryHeap QueuedTx
  emergencyGuard : Option EmergencyGuard

namespace OutboundTxQueue

def new : OutboundTxQueue := ⟨.new, none⟩

def withEmergencyGuard (config : EmergencyGuardConfig) : OutboundTxQueue :=
  ⟨.new, some (.new config)⟩

def pushAt (queue : OutboundTxQueue) (envelope : TransactionEnvelope)
    (priority : TxPriority) (enqueuedAt : UInt64) :
    Except SyncEngineError Unit × OutboundTxQueue :=
  let entry : QueuedTx := ⟨priority, enqueuedAt, envelope⟩
  match priority, queue.emergencyGuard with
  | .emergency, some guard =>
      match guard.check enqueuedAt with
      | (.error error, pruned) =>
          (.error error, { queue with emergencyGuard := some pruned })
      | (.ok (), pruned) =>
          (.ok (), {
            heap := queue.heap.push entry
            emergencyGuard := some (pruned.record enqueuedAt) })
  | _, _ => (.ok (), { queue with heap := queue.heap.push entry })

def restoreAt (queue : OutboundTxQueue) (envelope : TransactionEnvelope)
    (priority : TxPriority) (enqueuedAt : UInt64) : OutboundTxQueue :=
  let entry : QueuedTx := ⟨priority, enqueuedAt, envelope⟩
  match priority, queue.emergencyGuard with
  | .emergency, some guard => {
      heap := queue.heap.push entry
      emergencyGuard := some (guard.record enqueuedAt) }
  | _, _ => { queue with heap := queue.heap.push entry }

def pop (queue : OutboundTxQueue) :
    Option (TransactionEnvelope × OutboundTxQueue) :=
  queue.heap.pop.map fun (entry, rest) =>
    (entry.envelope, { queue with heap := rest })

def peek (queue : OutboundTxQueue) : Option TransactionEnvelope :=
  queue.heap.peek.map QueuedTx.envelope

def len (queue : OutboundTxQueue) : Nat := queue.heap.size

def entries (queue : OutboundTxQueue) : List QueuedTx := queue.heap.toList

@[simp] theorem entries_new : new.entries = [] := rfl

theorem peek_eq_pop (queue : OutboundTxQueue) :
    queue.peek = queue.heap.pop.map fun popped => popped.1.envelope := by
  rw [peek, BinaryHeap.pop_peek, Option.map_map]
  rfl

theorem peek_of_pop {queue : OutboundTxQueue} {head : QueuedTx}
    {rest : BinaryHeap QueuedTx} (popped : queue.heap.pop = some (head, rest)) :
    head.envelope ∈ queue.peek := by
  rw [queue.peek_eq_pop, popped]
  rfl

theorem pushAt_unguarded {queue : OutboundTxQueue}
    (unguarded : queue.emergencyGuard = none)
    (envelope : TransactionEnvelope) (priority : TxPriority)
    (enqueuedAt : UInt64) :
    queue.pushAt envelope priority enqueuedAt =
      (.ok (), { queue with
        heap := queue.heap.push ⟨priority, enqueuedAt, envelope⟩ }) := by
  cases priority <;> simp [pushAt, unguarded]

theorem restoreAt_unguarded {queue : OutboundTxQueue}
    (unguarded : queue.emergencyGuard = none)
    (envelope : TransactionEnvelope) (priority : TxPriority)
    (enqueuedAt : UInt64) :
    queue.restoreAt envelope priority enqueuedAt =
      { queue with
        heap := queue.heap.push ⟨priority, enqueuedAt, envelope⟩ } := by
  cases priority <;> simp [restoreAt, unguarded]

end OutboundTxQueue

/-! Any calls of a queue. -/

inductive QueueCall
  | pushAt (envelope : TransactionEnvelope) (priority : TxPriority)
      (enqueuedAt : UInt64)
  | restoreAt (envelope : TransactionEnvelope) (priority : TxPriority)
      (enqueuedAt : UInt64)
  | pop

inductive QueueReply
  | pushed (result : Except SyncEngineError Unit)
  | restored
  | popped (result : Option TransactionEnvelope)

namespace OutboundTxQueue

def perform (queue : OutboundTxQueue) :
    QueueCall → QueueReply × OutboundTxQueue
  | .pushAt envelope priority enqueuedAt =>
      (queue.pushAt envelope priority enqueuedAt).map .pushed id
  | .restoreAt envelope priority enqueuedAt =>
      (.restored, queue.restoreAt envelope priority enqueuedAt)
  | .pop =>
      match queue.pop with
      | none => (.popped none, queue)
      | some (envelope, rest) => (.popped (some envelope), rest)

def performAll (queue : OutboundTxQueue) (calls : List QueueCall) :
    OutboundTxQueue :=
  Machine.run (fun state call => (state.perform call).2) queue calls

theorem performAll_append (queue : OutboundTxQueue)
    (before after : List QueueCall) :
    queue.performAll (before ++ after) =
      (queue.performAll before).performAll after :=
  Machine.run_append _ _ _

@[simp] theorem performAll_snoc (queue : OutboundTxQueue)
    (calls : List QueueCall) (call : QueueCall) :
    queue.performAll (calls ++ [call]) =
      ((queue.performAll calls).perform call).2 :=
  Machine.run_snoc _ _ _

end OutboundTxQueue

end StellarConduit
