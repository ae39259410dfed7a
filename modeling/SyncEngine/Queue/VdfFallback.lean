import SyncEngine.Data.HeapDrain
import SyncEngine.Queue.Fifo
import SyncEngine.Queue.VdfSort

namespace StellarConduit

open Data

namespace OutboundTxQueue

theorem len_of_pop {queue rest : OutboundTxQueue}
    {envelope : TransactionEnvelope}
    (popped : queue.pop = some (envelope, rest)) :
    queue.len = rest.len + 1 := by
  obtain ⟨⟨head, heap⟩, found, same⟩ := Option.map_eq_some_iff.mp popped
  obtain ⟨rfl, rfl⟩ := Prod.mk.inj same
  exact BinaryHeap.size_of_pop found

/-- Popping until the queue is empty. -/
def popAll (queue : OutboundTxQueue) : List TransactionEnvelope :=
  match _popped : queue.pop with
  | none => []
  | some (envelope, rest) => envelope :: rest.popAll
termination_by queue.len
decreasing_by
  rw [len_of_pop _popped]
  omega

theorem popAll_eq (queue : OutboundTxQueue) :
    queue.popAll = queue.heap.drain.map QueuedTx.envelope := by
  induction queue using popAll.induct with
  | case1 queue empty =>
      have nothing : queue.heap.pop = none := Option.map_eq_none_iff.mp empty
      rw [BinaryHeap.drain_of_none nothing, popAll]
      split
      · rfl
      · rename_i popped
        rw [empty] at popped
        cases popped
  | case2 queue envelope rest popped induction =>
      obtain ⟨⟨head, heap⟩, found, same⟩ := Option.map_eq_some_iff.mp popped
      obtain ⟨rfl, rfl⟩ := Prod.mk.inj same
      rw [BinaryHeap.drain_of_pop found, List.map_cons, popAll]
      split
      · rename_i empty
        rw [popped] at empty
        cases empty
      · rename_i again
        rw [popped] at again
        obtain ⟨rfl, rfl⟩ := Prod.mk.inj (Option.some.inj again)
        rw [induction]

theorem head?_popAll (queue : OutboundTxQueue) :
    queue.popAll.head? = queue.peek := by
  rw [popAll_eq, List.head?_map, BinaryHeap.head?_drain]
  rfl

end OutboundTxQueue

namespace VdfOrderedEntry

/-- The envelope of an entry, of any `contents` beside its id. -/
def toEnvelope (contents : VdfOrderedEntry → TransactionEnvelope)
    (entry : VdfOrderedEntry) : TransactionEnvelope :=
  { contents entry with messageId := entry.envelopeId }

def toQueuedTx (contents : VdfOrderedEntry → TransactionEnvelope)
    (entry : VdfOrderedEntry) : QueuedTx :=
  ⟨entry.priority, entry.enqueuedAt, entry.toEnvelope contents⟩

def slot (entry : VdfOrderedEntry) : (TxPriority × UInt64) × Bytes32 :=
  ((entry.priority, entry.enqueuedAt), entry.envelopeId)

end VdfOrderedEntry

namespace QueuedTx

def slot (entry : QueuedTx) : (TxPriority × UInt64) × Bytes32 :=
  ((entry.priority, entry.enqueuedAt), entry.envelope.messageId)

/-- An entry has the least id of those that tie with it. -/
def LeastOfTies (held : List QueuedTx) (entry : QueuedTx) : Prop :=
  ∀ other ∈ held,
    entry.priority = other.priority → entry.enqueuedAt = other.enqueuedAt →
      leq entry.envelope.messageId other.envelope.messageId = true

end QueuedTx

namespace OutboundTxQueue

variable (contents : VdfOrderedEntry → TransactionEnvelope)

def pushEntries (queue : OutboundTxQueue) (entries : List VdfOrderedEntry) :
    OutboundTxQueue :=
  entries.foldl (fun queue entry =>
    (queue.pushAt (entry.toEnvelope contents) entry.priority
      entry.enqueuedAt).2) queue

theorem pushEntries_heap {queue : OutboundTxQueue}
    (unguarded : queue.emergencyGuard = none)
    (entries : List VdfOrderedEntry) :
    (queue.pushEntries contents entries).heap =
      queue.heap.pushAll
        (entries.map (VdfOrderedEntry.toQueuedTx contents)) := by
  induction entries generalizing queue with
  | nil => rfl
  | cons entry rest induction =>
      unfold pushEntries at *
      rw [List.foldl_cons, pushAt_unguarded unguarded]
      exact induction unguarded

end OutboundTxQueue

/-! The order of the queue, and what the sort adds to it. -/

def Dequeued (first second : TxPriority × UInt64) : Prop :=
  leq second.1 first.1 = true ∧ (first.1 = second.1 → first.2 ≤ second.2)

instance : Std.Antisymm Dequeued where
  antisymm := by
    rintro ⟨firstTier, firstTime⟩ ⟨secondTier, secondTime⟩
      ⟨lower, sooner⟩ ⟨upper, later⟩
    obtain rfl : firstTier = secondTier := Std.LawfulEqOrd.eq_of_compare
      (Std.OrientedCmp.isLE_antisymm upper lower)
    obtain rfl : firstTime = secondTime :=
      UInt64.le_antisymm (sooner rfl) (later rfl)
    rfl

def Smaller (first second : Bytes32) : Prop := leq first second = true

instance : Std.Antisymm Smaller where
  antisymm _ _ below above :=
    Std.LawfulEqOrd.eq_of_compare (Std.OrientedCmp.isLE_antisymm below above)

theorem QueuedTx.dequeued_of_leq {first second : QueuedTx}
    (ordered : leq second first = true) :
    Dequeued first.slot.1 second.slot.1 := by
  rcases QueuedTx.leq_iff.mp ordered with below | ⟨same, older⟩
  · refine ⟨?_, ?_⟩
    · show (compare second.priority first.priority).isLE = true
      rw [below]
      rfl
    · intro same
      have tied : compare second.priority first.priority = .eq := by
        rw [show first.priority = second.priority from same]
        exact Std.ReflOrd.compare_self
      rw [tied] at below
      cases below
  · refine ⟨?_, fun _ => older⟩
    show leq second.priority first.priority = true
    rw [same]
    exact leq_refl _

/-- Among entries of one tier and time, what comes out is always the one of
the least id: at first the one pushed first, then what each pop moves up. -/
structure TiesById (entries : List QueuedTx) : Prop where
  first : ∀ head, QueuedTx.FirstOut entries head →
    QueuedTx.LeastOfTies entries head
  promoted : ∀ count head rest,
    (BinaryHeap.afterPops count (BinaryHeap.new.pushAll entries)).pop =
      some (head, rest) →
    ∀ next ∈ (BinaryHeap.afterPops count
        (BinaryHeap.new.pushAll entries)).promoted,
      QueuedTx.LeastOfTies rest.toList next

theorem tiesById_iff (entries : List QueuedTx) :
    TiesById entries ↔
      (BinaryHeap.new.pushAll entries).drain.Pairwise fun first second =>
        first.slot.1 = second.slot.1 →
          Smaller first.slot.2 second.slot.2 := by
  have least (held : List QueuedTx) (head : QueuedTx) :
      (∀ other ∈ held, head.slot.1 = other.slot.1 →
        Smaller head.slot.2 other.slot.2) ↔
        QueuedTx.LeastOfTies held head := by
    simp only [QueuedTx.slot, Prod.mk.injEq, and_imp]
    rfl
  have reflexive (entry : QueuedTx) : entry.slot.1 = entry.slot.1 →
      Smaller entry.slot.2 entry.slot.2 :=
    fun _ => leq_refl _
  rw [BinaryHeap.pairwise_drain_iff_promoted reflexive,
    BinaryHeap.leads_pushAll_iff]
  simp only [least, ← QueuedTx.firstOut_iff]
  constructor
  · intro settled
    exact ⟨settled.first, settled.promoted⟩
  · rintro ⟨first, promoted⟩
    exact ⟨first, promoted⟩

theorem tiesById_of_distinct {held : List QueuedTx}
    (distinct : ∀ first ∈ held, ∀ second ∈ held,
      first.slot.1 = second.slot.1 → first.slot.2 = second.slot.2) :
    TiesById held := by
  have perm := BinaryHeap.drain_pushAll_perm held
  rw [tiesById_iff]
  refine List.pairwise_of_forall_mem_list ?_
  intro first firstIn second secondIn tied
  rw [distinct first (perm.mem_iff.mp firstIn) second
    (perm.mem_iff.mp secondIn) tied]
  exact leq_refl _

section

variable (verify : VdfParams → Bytes → Bytes → VdfProof → Bool)
  (params : VdfParams) (epochSeed : Bytes)
  (contents : VdfOrderedEntry → TransactionEnvelope)
  {entries : List VdfOrderedEntry}

theorem sorted_slots
    (noEvidence : ∀ entry ∈ entries,
      verified verify params epochSeed entry = false) :
    ((sortForDispatch verify params epochSeed entries).map
      VdfOrderedEntry.slot).Pairwise fun first second =>
        Dequeued first.1 second.1 ∧
          (first.1 = second.1 → Smaller first.2 second.2) := by
  have perm := sortForDispatch_perm verify params epochSeed entries
  refine List.pairwise_map.mpr (List.Pairwise.imp_of_mem ?_
    (sorted_sortForDispatch verify params epochSeed entries))
  intro first second firstIn secondIn ordered
  have unproven : verified verify params epochSeed second =
      verified verify params epochSeed first := by
    rw [noEvidence first (perm.mem_iff.mp firstIn),
      noEvidence second (perm.mem_iff.mp secondIn)]
  obtain ⟨tier, withinTier⟩ :=
    VdfOrderedEntry.levels_of_dispatchCmp ordered
  refine ⟨⟨tier, ?_⟩, ?_⟩
  · intro sameTier
    exact ((withinTier sameTier.symm).2 unproven).1
  · intro sameKey
    obtain ⟨sameTier, sameTime⟩ := Prod.mk.inj sameKey
    exact ((withinTier sameTier.symm).2 unproven).2 sameTime

/-- The ids of the entries in an order of the queue. -/
theorem ids_eq_iff {drained : List QueuedTx}
    (noEvidence : ∀ entry ∈ entries,
      verified verify params epochSeed entry = false)
    (held : drained.Perm
      (entries.map (VdfOrderedEntry.toQueuedTx contents)))
    (descending : drained.Pairwise fun first second =>
      leq second first = true) :
    (sortForDispatch verify params epochSeed entries).map
        VdfOrderedEntry.envelopeId =
      (drained.map QueuedTx.envelope).map TransactionEnvelope.messageId ↔
      drained.Pairwise fun first second =>
        first.slot.1 = second.slot.1 →
          Smaller first.slot.2 second.slot.2 := by
  have perm : (drained.map QueuedTx.slot).Perm
      ((sortForDispatch verify params epochSeed entries).map
        VdfOrderedEntry.slot) := by
    have slots := held.map QueuedTx.slot
    rw [List.map_map] at slots
    exact slots.trans
      ((sortForDispatch_perm verify params epochSeed entries).symm.map
        VdfOrderedEntry.slot)
  have coarsely : (drained.map QueuedTx.slot).Pairwise fun first second =>
      Dequeued first.1 second.1 :=
    List.pairwise_map.mpr (descending.imp QueuedTx.dequeued_of_leq)
  have ties := map_snd_eq_iff perm
    (sorted_slots verify params epochSeed noEvidence) coarsely
  rw [List.map_map, List.map_map, List.pairwise_map] at ties
  rw [List.map_map]
  exact ties

/-- Without evidence, the sort gives the order of the queue exactly when the
queue hands out the ties by their ids. -/
theorem sortForDispatch_eq_queue_iff
    (noEvidence : ∀ entry ∈ entries,
      verified verify params epochSeed entry = false) :
    (sortForDispatch verify params epochSeed entries).map
        VdfOrderedEntry.envelopeId =
      (OutboundTxQueue.new.pushEntries contents entries).popAll.map
        TransactionEnvelope.messageId ↔
      TiesById (entries.map (VdfOrderedEntry.toQueuedTx contents)) := by
  have filled := OutboundTxQueue.pushEntries_heap contents
    (show OutboundTxQueue.new.emergencyGuard = none from rfl) entries
  rw [OutboundTxQueue.popAll_eq, filled, tiesById_iff]
  exact ids_eq_iff verify params epochSeed contents noEvidence
    (BinaryHeap.drain_pushAll_perm _) (BinaryHeap.drain_sorted _)

end

section Samples

def sampleEntry (number : UInt8) (enqueuedAt : UInt64) : VdfOrderedEntry :=
  ⟨Vector.replicate 32 number, .normal, enqueuedAt, none⟩

def sampleContents (_ : VdfOrderedEntry) : TransactionEnvelope :=
  ⟨Vector.replicate 32 0, Vector.replicate 32 2, "", 10, 0,
    Vector.replicate 64 3⟩

theorem sortForDispatch_eq_queue_untied :
    (sortForDispatch (fun _ _ _ _ => false) ⟨35, 300⟩ []
        [sampleEntry 2 100, sampleEntry 1 50]).map
        VdfOrderedEntry.envelopeId =
      (OutboundTxQueue.new.pushEntries sampleContents
        [sampleEntry 2 100, sampleEntry 1 50]).popAll.map
          TransactionEnvelope.messageId := by
  apply (sortForDispatch_eq_queue_iff _ _ _ sampleContents (by decide)).mpr
  exact tiesById_of_distinct (by decide)

theorem ties_come_by_push :
    let sorted := sortForDispatch (fun _ _ _ _ => false) ⟨35, 300⟩ []
      [sampleEntry 2 100, sampleEntry 1 100]
    let queue := OutboundTxQueue.new.pushEntries sampleContents
      [sampleEntry 2 100, sampleEntry 1 100]
    sorted.map VdfOrderedEntry.envelopeId ≠
      queue.popAll.map TransactionEnvelope.messageId := by
  intro sorted queue same
  have sortedFirst : sorted = [sampleEntry 1 100, sampleEntry 2 100] := by
    simp only [sorted, sortForDispatch_eq]
    rw [sortWith_pair, if_neg (by decide +kernel)]
  have pushedFirst : queue.peek.map TransactionEnvelope.messageId =
      some (Vector.replicate 32 2) := by
    decide +kernel
  rw [← OutboundTxQueue.head?_popAll, ← List.head?_map, ← same,
    sortedFirst] at pushedFirst
  exact absurd pushedFirst (by decide)

end Samples

end StellarConduit
