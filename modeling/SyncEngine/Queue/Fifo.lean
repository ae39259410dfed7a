import Mathlib.Data.List.Induction
import SyncEngine.Data.HeapTies
import SyncEngine.Queue.Priority

namespace StellarConduit

open Data

namespace QueuedTx

theorem leq_iff {first second : QueuedTx} : leq first second = true ↔
    compare first.priority second.priority = .lt ∨
      first.priority = second.priority ∧
        second.enqueuedAt ≤ first.enqueuedAt := by
  have unfolded : leq first second = ((compare first.priority
      second.priority).then
        (compare second.enqueuedAt first.enqueuedAt)).isLE := rfl
  rw [unfolded]
  cases tiers : compare first.priority second.priority with
  | lt => simp
  | eq =>
      have same : first.priority = second.priority :=
        Std.LawfulEqOrd.eq_of_compare tiers
      simp only [Ordering.eq_then, same, true_and, reduceCtorEq, false_or]
      exact Std.isLE_compare
  | gt =>
      have differ : first.priority ≠ second.priority := by
        intro same
        rw [same, Std.ReflOrd.compare_self] at tiers
        cases tiers
      simp [differ]

/-- An entry of the highest tier held, of the earliest time in that tier, and
the first to be inserted of those of that time. -/
structure FirstOut (held : List QueuedTx) (head : QueuedTx) : Prop where
  highest : ∀ other ∈ held, leq other.priority head.priority = true
  oldest : ∀ other ∈ held, other.priority = head.priority →
    head.enqueuedAt ≤ other.enqueuedAt
  earliest : ∃ earlier later, held = earlier ++ head :: later ∧
    ∀ other ∈ earlier, other.priority = head.priority →
      other.enqueuedAt ≠ head.enqueuedAt

theorem firstOut_iff {held : List QueuedTx} {head : QueuedTx} :
    FirstOut held head ↔ Foremost held head := by
  constructor
  · rintro ⟨highest, oldest, earlier, later, rfl, earliest⟩
    refine ⟨earlier, later, rfl, ?_, ?_⟩
    · intro other isEarlier
      have member : other ∈ earlier ++ head :: later :=
        List.mem_append_left _ isEarlier
      rw [← Bool.not_eq_true, leq_iff]
      rintro (below | ⟨same, notAfter⟩)
      · have above := highest other member
        rw [leq, Std.OrientedOrd.eq_swap (a := other.priority), below] at above
        cases above
      · exact earliest other isEarlier same.symm
          (UInt64.le_antisymm notAfter (oldest other member same.symm))
    · intro other isLater
      have member : other ∈ earlier ++ head :: later := by simp [isLater]
      have tier := highest other member
      rw [leq_iff]
      cases compared : compare other.priority head.priority with
      | lt => exact Or.inl rfl
      | eq =>
          have same := Std.LawfulEqOrd.eq_of_compare compared
          exact Or.inr ⟨same, oldest other member same⟩
      | gt =>
          rw [leq, compared] at tier
          cases tier
  · intro foremost
    have above := foremost.leq
    obtain ⟨earlier, later, split, before, -⟩ := foremost
    refine ⟨?_, ?_, earlier, later, split, ?_⟩
    · intro other member
      rcases leq_iff.mp (above other member) with below | ⟨same, -⟩
      · rw [leq, below]
        rfl
      · rw [same]
        exact leq_refl _
    · intro other member same
      exact (leq_of_same_priority same).mp (above other member)
    · intro other isEarlier same tied
      have strict := before other isEarlier
      rw [← Bool.not_eq_true, leq_of_same_priority same.symm, tied] at strict
      exact strict (UInt64.le_refl _)

end QueuedTx

/-- The entry that a call inserts into a queue without a guard. -/
def QueueCall.inserted : QueueCall → Option QueuedTx
  | .pushAt envelope priority enqueuedAt =>
      some ⟨priority, enqueuedAt, envelope⟩
  | .restoreAt envelope priority enqueuedAt =>
      some ⟨priority, enqueuedAt, envelope⟩
  | .pop => none

namespace OutboundTxQueue

/-- The entries held after a call, in the order in which they came. -/
def arrange (queue : OutboundTxQueue) (held : List QueuedTx) :
    QueueCall → List QueuedTx
  | .pop =>
      match queue.heap.pop with
      | none => held
      | some (head, _) => held.erase head
  | call => held ++ call.inserted.toList

def arrangeAll (queue : OutboundTxQueue) (held : List QueuedTx) :
    List QueueCall → List QueuedTx
  | [] => held
  | call :: rest =>
      (queue.perform call).2.arrangeAll (queue.arrange held call) rest

variable {queue : OutboundTxQueue} {held : List QueuedTx}

theorem arrangeAll_append (queue : OutboundTxQueue) (held : List QueuedTx)
    (before after : List QueueCall) :
    queue.arrangeAll held (before ++ after) =
      (queue.performAll before).arrangeAll (queue.arrangeAll held before)
        after := by
  induction before generalizing queue held with
  | nil => rfl
  | cons call rest induction => exact induction _ _

theorem perform_inserted (held : List QueuedTx)
    (unguarded : queue.emergencyGuard = none) {call : QueueCall}
    {entry : QueuedTx} (inserted : call.inserted = some entry) :
    (queue.perform call).2 = { queue with heap := queue.heap.push entry } ∧
      queue.arrange held call = held ++ [entry] := by
  cases call with
  | pushAt envelope priority enqueuedAt =>
      obtain rfl := Option.some.inj inserted
      refine ⟨?_, rfl⟩
      rw [perform, pushAt_unguarded unguarded]
      rfl
  | restoreAt envelope priority enqueuedAt =>
      obtain rfl := Option.some.inj inserted
      exact ⟨restoreAt_unguarded unguarded _ _ _, rfl⟩
  | pop => cases inserted

/-- A queue without a guard holds what has been inserted and not popped. -/
structure Holds (queue : OutboundTxQueue) (held : List QueuedTx) : Prop where
  unguarded : queue.emergencyGuard = none
  perm : queue.entries.Perm held

theorem Holds.perform (holds : queue.Holds held) (call : QueueCall) :
    (queue.perform call).2.Holds (queue.arrange held call) := by
  cases inserted : call.inserted with
  | some entry =>
      obtain ⟨performed, arranged⟩ :=
        perform_inserted held holds.unguarded inserted
      rw [performed, arranged]
      exact ⟨holds.unguarded, (queue.heap.toList_push_perm entry).trans
        ((holds.perm.cons entry).trans (List.perm_append_singleton _ _).symm)⟩
  | none =>
      cases call with
      | pop =>
          simp only [OutboundTxQueue.perform, pop, arrange]
          cases popped : queue.heap.pop with
          | none => exact holds
          | some pair =>
              obtain ⟨head, rest⟩ := pair
              refine ⟨holds.unguarded, ?_⟩
              have split := BinaryHeap.toList_pop_perm popped
              have erased := (split.symm.trans holds.perm).erase head
              rwa [List.erase_cons_head] at erased
      | _ => cases inserted

theorem Holds.performAll (holds : queue.Holds held) (calls : List QueueCall) :
    (queue.performAll calls).Holds (queue.arrangeAll held calls) := by
  induction calls generalizing queue held with
  | nil => exact holds
  | cons call rest induction => exact induction (holds.perform call)

theorem holds_new : new.Holds [] :=
  ⟨rfl, List.Perm.refl _⟩

/-- Insertions alone. -/
theorem performAll_inserts (held : List QueuedTx)
    (unguarded : queue.emergencyGuard = none)
    {inserts : List QueueCall} (noPop : .pop ∉ inserts) :
    (queue.performAll inserts).heap =
        queue.heap.pushAll (inserts.filterMap QueueCall.inserted) ∧
      queue.arrangeAll held inserts =
        held ++ inserts.filterMap QueueCall.inserted := by
  induction inserts generalizing queue held with
  | nil =>
      exact ⟨rfl, (List.append_nil held).symm⟩
  | cons call rest induction =>
      obtain ⟨notPop, noPop⟩ := List.ne_and_not_mem_of_not_mem_cons noPop
      obtain ⟨entry, inserted⟩ : ∃ entry, call.inserted = some entry := by
        cases call with
        | pop => exact absurd rfl notPop
        | _ => exact ⟨_, rfl⟩
      obtain ⟨performed, arranged⟩ :=
        perform_inserted held unguarded inserted
      have stays : (queue.perform call).2.emergencyGuard = none := by
        rw [performed]
        exact unguarded
      have later := induction (queue.arrange held call) stays noPop
      rw [List.filterMap_cons_some inserted]
      refine ⟨later.1.trans ?_, later.2.trans ?_⟩
      · rw [performed]
        rfl
      · rw [arranged, List.append_assoc]
        rfl

end OutboundTxQueue

namespace QueueCall

theorem exists_last_pop (calls : List QueueCall) :
    .pop ∉ calls ∨ ∃ before inserts,
      calls = before ++ .pop :: inserts ∧ .pop ∉ inserts := by
  induction calls using List.reverseRecOn with
  | nil => exact Or.inl (by simp)
  | append_singleton calls call induction =>
      by_cases last : call = .pop
      · subst last
        exact Or.inr ⟨calls, [], rfl, by simp⟩
      · rcases induction with noPop | ⟨before, inserts, rfl, noPop⟩
        · exact Or.inl (by simpa [noPop] using Ne.symm last)
        · refine Or.inr ⟨before, inserts ++ [call], by simp, ?_⟩
          simpa [noPop] using Ne.symm last

end QueueCall

namespace OutboundTxQueue

/-- Whether the next pop answers with the entry that comes out first. -/
def InOrder (calls : List QueueCall) : Prop :=
  (new.performAll calls).heap.Fair (new.arrangeAll [] calls)

theorem inOrder_of_noPop {calls : List QueueCall} (noPop : .pop ∉ calls) :
    InOrder calls := by
  obtain ⟨performed, arranged⟩ :=
    performAll_inserts [] (show new.emergencyGuard = none from rfl) noPop
  have empty : (BinaryHeap.new : BinaryHeap QueuedTx).Fair [] := by
    intro root found
    cases found
  unfold InOrder
  rw [performed, arranged]
  exact (BinaryHeap.fair_pushAll (List.Perm.refl _) _).mpr (Or.inl empty)

/-- After a pop and insertions, the root comes first if an insertion took the
place of what the pop moved there, or that comes first itself. -/
theorem inOrder_pop_iff {before inserts : List QueueCall}
    (noPop : .pop ∉ inserts) :
    InOrder (before ++ .pop :: inserts) ↔
      ∀ head ∈ (new.performAll before).heap.peek,
        ∀ next ∈ (new.performAll before).heap.promoted,
        (∃ entry ∈ inserts.filterMap QueueCall.inserted,
            leq entry next = false) ∨
          QueuedTx.FirstOut ((new.arrangeAll [] before).erase head) next := by
  have holds := holds_new.performAll before
  unfold InOrder
  rw [performAll_append, arrangeAll_append]
  revert holds
  generalize new.performAll before = queue
  generalize new.arrangeAll [] before = held
  intro holds
  have afterPop := holds.perform .pop
  obtain ⟨performed, arranged⟩ := performAll_inserts
    (queue.arrange held .pop) afterPop.unguarded noPop
  show BinaryHeap.Fair ((queue.perform .pop).2.performAll inserts).heap
    ((queue.perform .pop).2.arrangeAll (queue.arrange held .pop) inserts) ↔ _
  rw [performed, arranged, BinaryHeap.fair_pushAll afterPop.perm]
  cases popped : queue.heap.pop with
  | none =>
      have peeked : queue.heap.peek = none := by
        rw [queue.heap.pop_peek, popped]
        rfl
      simp [perform, pop, popped, peeked, BinaryHeap.Fair]
  | some pair =>
      obtain ⟨head, rest⟩ := pair
      have peeked : queue.heap.peek = some head := by
        rw [queue.heap.pop_peek, popped]
        rfl
      have moved := BinaryHeap.peek_of_pop popped
      simp only [perform, pop, arrange, popped, Option.map_some, peeked,
        BinaryHeap.Fair, moved, Option.mem_def, Option.some.injEq,
        forall_eq', QueuedTx.firstOut_iff]
      cases queue.heap.promoted with
      | none => simp
      | some next => simp [or_comm]

/-- Nothing is lost or duplicated, and every pop answers with the entry that
comes out first. -/
structure PriorityThenFifo (calls : List QueueCall) : Prop where
  conserved : ∀ before after, calls = before ++ after →
    (new.performAll before).entries.Perm (new.arrangeAll [] before)
  popped : ∀ before after, calls = before ++ .pop :: after →
    match (new.performAll before).heap.pop with
    | none =>
        ((new.performAll before).perform .pop).1 = .popped none ∧
          new.arrangeAll [] before = []
    | some (head, _) =>
        ((new.performAll before).perform .pop).1 =
            .popped (some head.envelope) ∧
          QueuedTx.FirstOut (new.arrangeAll [] before) head

theorem priorityThenFifo_iff_inOrder {calls : List QueueCall} :
    PriorityThenFifo calls ↔
      ∀ before after, calls = before ++ .pop :: after → InOrder before := by
  constructor
  · intro fifo before after split root peeked
    have answer := fifo.popped before after split
    rw [BinaryHeap.pop_peek] at peeked
    cases popped : (new.performAll before).heap.pop with
    | none =>
        rw [popped] at peeked
        cases peeked
    | some pair =>
        rw [popped] at peeked answer
        obtain rfl := Option.some.inj peeked
        exact QueuedTx.firstOut_iff.mp answer.2
  · intro inOrder
    refine ⟨fun before _ _ => (holds_new.performAll before).perm, ?_⟩
    intro before after split
    have fair := inOrder before after split
    cases popped : (new.performAll before).heap.pop with
    | none =>
        have perm := (holds_new.performAll before).perm
        rw [entries, BinaryHeap.pop_eq_none popped] at perm
        refine ⟨?_, List.nil_perm.mp perm⟩
        simp [perform, pop, popped]
    | some pair =>
        refine ⟨?_, QueuedTx.firstOut_iff.mpr (fair pair.1 ?_)⟩
        · simp [perform, pop, popped]
        · rw [BinaryHeap.pop_peek, popped]
          rfl

/-- Pops come out in order exactly when, between any two of them, what the
first one moves to the root either comes first of what is left or is overtaken
by an insertion. -/
theorem priorityThenFifo_iff (calls : List QueueCall) :
    PriorityThenFifo calls ↔
      ∀ before inserts after,
        calls = before ++ .pop :: (inserts ++ .pop :: after) →
        .pop ∉ inserts →
        ∀ head ∈ (new.performAll before).heap.peek,
          ∀ next ∈ (new.performAll before).heap.promoted,
          (∃ entry ∈ inserts.filterMap QueueCall.inserted,
              leq entry next = false) ∨
            QueuedTx.FirstOut ((new.arrangeAll [] before).erase head)
              next := by
  rw [priorityThenFifo_iff_inOrder]
  constructor
  · intro inOrder before inserts after split noPop
    apply (inOrder_pop_iff noPop).mp
    apply inOrder _ after
    rw [split, List.append_assoc, List.cons_append]
  · intro overtaken before after split
    rcases QueueCall.exists_last_pop before with
      noPop | ⟨earlier, inserts, rfl, noPop⟩
    · exact inOrder_of_noPop noPop
    · apply (inOrder_pop_iff noPop).mpr
      apply overtaken earlier inserts after _ noPop
      rw [split, List.append_assoc, List.cons_append]

/-- Of four entries of one tier and time, the third comes out second. -/
theorem ties_pop_out_of_order :
    let envelope (number : UInt8) : TransactionEnvelope :=
      ⟨Vector.replicate 32 number, Vector.replicate 32 2, "", 10, 0,
        Vector.replicate 64 3⟩
    let push (number : UInt8) : QueueCall :=
      .pushAt (envelope number) .normal 100
    let before := [push 1, push 2, push 3, push 4, .pop]
    ((new.performAll before).perform .pop).1 = .popped (some (envelope 3)) ∧
      ¬ PriorityThenFifo (before ++ [.pop]) := by
  intro envelope push before
  let entry (number : UInt8) : QueuedTx := ⟨.normal, 100, envelope number⟩
  have third : (new.performAll before).heap.pop.map Prod.fst =
      some (entry 3) := by
    decide +kernel
  have held : new.arrangeAll [] before = [entry 2, entry 3, entry 4] := by
    decide +kernel
  obtain ⟨⟨head, rest⟩, popped, same⟩ := Option.map_eq_some_iff.mp third
  obtain rfl : head = entry 3 := same
  refine ⟨?_, ?_⟩
  · simp [perform, pop, popped, entry]
  · intro fifo
    have answer := fifo.popped before [] rfl
    rw [popped, held] at answer
    obtain ⟨earlier, later, split, earliest⟩ := answer.2.earliest
    cases earlier with
    | nil =>
        have differ : entry 2 ≠ entry 3 := by decide
        exact differ (List.cons.inj split).1
    | cons first rest =>
        obtain rfl : entry 2 = first := (List.cons.inj split).1
        exact earliest (entry 2) List.mem_cons_self rfl rfl

end OutboundTxQueue

end StellarConduit
