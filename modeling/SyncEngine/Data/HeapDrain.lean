import SyncEngine.Data.HeapTies

namespace StellarConduit.Data

variable {α : Type} [Ord α] [Std.TransOrd α]

/-- At most one element is the first of the greatest. -/
theorem Foremost.unique {held : List α} {first second : α}
    (foremost : Foremost held first) (other : Foremost held second) :
    first = second := by
  obtain ⟨earlier, later, rfl, before, after⟩ := foremost
  have upper := other.leq first (by simp)
  obtain ⟨prior, subsequent, split, strict, lower⟩ := other
  rcases List.append_eq_append_iff.mp split with
    ⟨between, rfl, rest⟩ | ⟨between, rfl, rest⟩
  · cases between with
    | nil => exact (List.cons.inj rest).1
    | cons head tail =>
        obtain ⟨rfl, rfl⟩ := List.cons.inj rest
        have below := strict first (by simp)
        rw [after second (by simp)] at below
        cases below
  · cases between with
    | nil => exact (List.cons.inj rest).1.symm
    | cons head tail =>
        obtain ⟨rfl, rfl⟩ := List.cons.inj rest
        have below := before second (by simp)
        rw [upper] at below
        cases below

namespace BinaryHeap

theorem size_of_pop {heap rest : BinaryHeap α} {value : α}
    (popped : heap.pop = some (value, rest)) :
    heap.size = rest.size + 1 := by
  have split := (toList_pop_perm popped).length_eq
  simpa using split

/-! Popping until nothing is left. -/

def drain (heap : BinaryHeap α) : List α :=
  match _popped : heap.pop with
  | none => []
  | some (value, rest) => value :: rest.drain
termination_by heap.size
decreasing_by
  rw [size_of_pop _popped]
  omega

def afterPops : Nat → BinaryHeap α → BinaryHeap α
  | 0, heap => heap
  | count + 1, heap =>
      match heap.pop with
      | none => heap
      | some (_, rest) => afterPops count rest

variable {heap rest : BinaryHeap α} {value : α}

theorem drain_of_none (empty : heap.pop = none) : heap.drain = [] := by
  rw [drain]
  split
  · rfl
  · rename_i popped
    rw [empty] at popped
    cases popped

theorem drain_of_pop (popped : heap.pop = some (value, rest)) :
    heap.drain = value :: rest.drain := by
  rw [drain]
  split
  · rename_i empty
    rw [empty] at popped
    cases popped
  · rename_i same
    rw [popped] at same
    obtain ⟨rfl, rfl⟩ := Prod.mk.inj (Option.some.inj same)
    rfl

theorem head?_drain (heap : BinaryHeap α) :
    heap.drain.head? = heap.peek := by
  rw [heap.pop_peek]
  cases popped : heap.pop with
  | none =>
      rw [drain_of_none popped]
      rfl
  | some pair =>
      rw [drain_of_pop popped]
      rfl

theorem drain_perm (heap : BinaryHeap α) :
    heap.drain.Perm heap.toList := by
  induction heap using drain.induct with
  | case1 heap empty =>
      rw [drain_of_none empty, pop_eq_none empty]
  | case2 heap value rest popped induction =>
      rw [drain_of_pop popped]
      exact (induction.cons value).trans (toList_pop_perm popped).symm

/-- A relation holds along what comes out if, before each pop, it holds of the
root and all that is left. -/
theorem pairwise_drain_iff {related : α → α → Prop} (heap : BinaryHeap α) :
    heap.drain.Pairwise related ↔
      ∀ count head rest, (afterPops count heap).pop = some (head, rest) →
        ∀ other ∈ rest.toList, related head other := by
  induction heap using drain.induct with
  | case1 heap empty =>
      have stays (count : Nat) : (afterPops count heap).pop = none := by
        cases count with
        | zero => exact empty
        | succ count => simp only [afterPops, empty]
      rw [drain_of_none empty]
      constructor
      · intro _ count head rest popped
        rw [stays] at popped
        cases popped
      · intro _
        exact List.Pairwise.nil
  | case2 heap value rest popped induction =>
      have next (count : Nat) :
          afterPops (count + 1) heap = afterPops count rest := by
        simp only [afterPops, popped]
      rw [drain_of_pop popped, List.pairwise_cons, induction]
      constructor
      · rintro ⟨first, later⟩ count
        cases count with
        | zero =>
            intro head others same other member
            obtain ⟨rfl, rfl⟩ :=
              Prod.mk.inj (Option.some.inj (popped.symm.trans same))
            exact first other (rest.drain_perm.mem_iff.mpr member)
        | succ count =>
            rw [next]
            exact later count
      · intro settled
        refine ⟨?_, ?_⟩
        · intro other member
          exact settled 0 value rest popped other
            (rest.drain_perm.mem_iff.mp member)
        · intro count
          rw [← next]
          exact settled (count + 1)

/-- What comes out is sorted, the greatest first. -/
theorem drain_sorted (heap : BinaryHeap α) :
    heap.drain.Pairwise fun first second => leq second first = true := by
  rw [pairwise_drain_iff]
  intro count head rest popped other member
  exact leq_of_pop popped (mem_of_mem_rest popped member)

theorem afterPops_succ (count : Nat) (heap : BinaryHeap α) :
    afterPops (count + 1) heap =
      match (afterPops count heap).pop with
      | none => afterPops count heap
      | some (_, rest) => rest := by
  induction count generalizing heap with
  | zero => rfl
  | succ count induction =>
      rw [afterPops]
      cases popped : heap.pop with
      | none =>
          have stays : afterPops (count + 1) heap = heap := by
            simp only [afterPops, popped]
          rw [stays, popped]
      | some pair =>
          have next : afterPops (count + 1) heap = afterPops count pair.2 := by
            simp only [afterPops, popped]
          rw [next]
          exact induction pair.2

/-- The root is related to all that is held. -/
def Leads (related : α → α → Prop) (heap : BinaryHeap α) : Prop :=
  ∀ root ∈ heap.peek, ∀ other ∈ heap.toList, related root other

theorem pairwise_drain_iff_leads {related : α → α → Prop}
    (reflexive : ∀ value, related value value) (heap : BinaryHeap α) :
    heap.drain.Pairwise related ↔
      ∀ count, Leads related (afterPops count heap) := by
  rw [pairwise_drain_iff]
  apply forall_congr'
  intro count
  generalize afterPops count heap = state
  constructor
  · intro settled root peeked other member
    cases popped : state.pop with
    | none =>
        rw [pop_eq_none popped] at member
        cases member
    | some pair =>
        rw [pop_peek, popped] at peeked
        obtain rfl : pair.1 = root := Option.some.inj peeked
        rcases List.mem_cons.mp
          ((toList_pop_perm popped).mem_iff.mp member) with rfl | left
        · exact reflexive _
        · exact settled pair.1 pair.2 popped other left
  · intro leads head rest popped other member
    refine leads head ?_ other (mem_of_mem_rest popped member)
    rw [pop_peek, popped]
    rfl

/-- What comes out is related, one to the next, exactly if the root is to all
that is held and every pop moves up what is to all that it leaves. -/
theorem pairwise_drain_iff_promoted {related : α → α → Prop}
    (reflexive : ∀ value, related value value) (heap : BinaryHeap α) :
    heap.drain.Pairwise related ↔
      Leads related heap ∧
        ∀ count head rest,
          (afterPops count heap).pop = some (head, rest) →
          ∀ next ∈ (afterPops count heap).promoted,
            ∀ other ∈ rest.toList, related next other := by
  rw [pairwise_drain_iff_leads reflexive]
  constructor
  · intro leads
    refine ⟨leads 0, ?_⟩
    intro count head rest popped next moved
    have later := leads (count + 1)
    rw [afterPops_succ, popped] at later
    apply later next
    rw [peek_of_pop popped]
    exact moved
  · rintro ⟨first, later⟩ count
    induction count with
    | zero => exact first
    | succ count induction =>
        rw [afterPops_succ]
        cases popped : (afterPops count heap).pop with
        | none => exact induction
        | some pair =>
            intro root peeked
            rw [peek_of_pop popped] at peeked
            exact later count pair.1 pair.2 popped root peeked

theorem toList_pushAll_perm (heap : BinaryHeap α) (values : List α) :
    (heap.pushAll values).toList.Perm (heap.toList ++ values) := by
  induction values generalizing heap with
  | nil => simp [pushAll]
  | cons value rest induction =>
      refine (induction (heap.push value)).trans ?_
      refine ((heap.toList_push_perm value).append_right rest).trans ?_
      exact List.perm_middle.symm

theorem drain_pushAll_perm (values : List α) :
    (new.pushAll values).drain.Perm values :=
  (drain_perm _).trans (toList_pushAll_perm new values)

/-- The root of a heap filled from nothing. -/
theorem leads_pushAll_iff {related : α → α → Prop} (values : List α) :
    Leads related (new.pushAll values) ↔
      ∀ head, Foremost values head →
        ∀ other ∈ values, related head other := by
  have fair : ((new : BinaryHeap α).pushAll values).Fair values := by
    refine (fair_pushAll (List.Perm.refl _) values).mpr (Or.inl ?_)
    intro root found
    cases found
  have perm : ((new : BinaryHeap α).pushAll values).toList.Perm values :=
    toList_pushAll_perm new values
  constructor
  · intro leads head foremost other member
    cases peeked : ((new : BinaryHeap α).pushAll values).peek with
    | none =>
        have nothing := toList_of_peek peeked
        rw [← perm.mem_iff, nothing] at member
        cases member
    | some root =>
        obtain rfl := foremost.unique (fair root peeked)
        exact leads head peeked other (perm.mem_iff.mpr member)
  · intro settled root peeked other member
    exact settled root (fair root peeked) other (perm.mem_iff.mp member)

end BinaryHeap

end StellarConduit.Data
