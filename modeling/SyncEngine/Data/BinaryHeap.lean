import Mathlib.Data.List.Basic
import Mathlib.Order.Defs.LinearOrder

namespace StellarConduit.Data

/-! The array heap behind Rust's `std::collections::BinaryHeap`: a push sifts
the new element up from the end, a pop moves the last element to the root,
carries it down to the bottom along the greater children and sifts it up from
there. -/

variable {α : Type} [Ord α]

/-- Rust's `a <= b` on a type with a total order up to ties. -/
def leq (first second : α) : Bool := (compare first second).isLE

section Leq

variable [Std.TransOrd α]

theorem leq_refl (value : α) : leq value value = true :=
  Std.ReflCmp.isLE_rfl

theorem leq_trans {first second third : α} (lower : leq first second = true)
    (upper : leq second third = true) : leq first third = true :=
  Std.TransCmp.isLE_trans lower upper

theorem leq_of_not {first second : α} (not : ¬ leq first second = true) :
    leq second first = true := by
  have swapped : compare second first = (compare first second).swap :=
    Std.OrientedCmp.eq_swap
  unfold leq at *
  rw [swapped]
  cases equation : compare first second <;> simp_all

end Leq

namespace BinaryHeap

abbrev parent (pos : Nat) : Nat := (pos - 1) / 2

theorem parent_lt {pos : Nat} (positive : 0 < pos) : parent pos < pos := by
  simp only [parent]
  omega

/-- Move the element at `pos` up until its parent is not smaller. The `start`
of the source is the root in both of its uses. -/
def siftUp (data : Vector α n) (pos : Nat) (bound : pos < n) : Vector α n :=
  if positive : 0 < pos then
    have parentBound : parent pos < n := by
      have := parent_lt positive
      omega
    if leq data[pos] data[parent pos] then
      data
    else
      siftUp (data.swap pos (parent pos)) (parent pos) parentBound
  else
    data
termination_by pos
decreasing_by exact parent_lt positive

/-- Carry the element at `pos` down to a leaf, always exchanging it with the
greater child, and sift it up from there. -/
def siftDownToBottom (data : Vector α n) (pos : Nat) (bound : pos < n) :
    Vector α n :=
  if both : 2 * pos + 2 < n then
    if leq data[2 * pos + 1] data[2 * pos + 2] then
      siftDownToBottom (data.swap pos (2 * pos + 2)) (2 * pos + 2) both
    else
      siftDownToBottom (data.swap pos (2 * pos + 1)) (2 * pos + 1) (by omega)
  else if single : 2 * pos + 1 < n then
    siftUp (data.swap pos (2 * pos + 1)) (2 * pos + 1) single
  else
    siftUp data pos bound
termination_by n - pos

/-! Heap order, and the two ways it may be broken at one position while an
element travels. A pair is a position together with its parent. -/

def IsChild (child pos : Nat) : Prop := 0 < child ∧ parent child = pos

theorem IsChild.lt {child pos : Nat} (isChild : IsChild child pos) :
    pos < child :=
  isChild.2 ▸ parent_lt isChild.1

theorem IsChild.eq_or {child pos : Nat} (isChild : IsChild child pos) :
    child = 2 * pos + 1 ∨ child = 2 * pos + 2 := by
  obtain ⟨positive, parentEq⟩ := isChild
  simp only [parent] at parentEq
  omega

theorem isChild_left (pos : Nat) : IsChild (2 * pos + 1) pos := by
  refine ⟨by omega, ?_⟩
  simp only [parent]
  omega

theorem isChild_right (pos : Nat) : IsChild (2 * pos + 2) pos := by
  refine ⟨by omega, ?_⟩
  simp only [parent]
  omega

def Ordered (data : Vector α n) : Prop :=
  ∀ i j (_ : i < n) (_ : j < n), IsChild i j → leq data[i] data[j] = true

def Bridged (data : Vector α n) (pos : Nat) : Prop :=
  ∀ i j (_ : i < n) (_ : j < n), IsChild i pos → IsChild pos j →
    leq data[i] data[j] = true

structure UpOrdered (data : Vector α n) (pos : Nat) : Prop where
  other : ∀ i j (_ : i < n) (_ : j < n), i ≠ pos → IsChild i j →
    leq data[i] data[j] = true
  bridged : Bridged data pos

structure DownOrdered (data : Vector α n) (pos : Nat) : Prop where
  other : ∀ i j (_ : i < n) (_ : j < n), i ≠ pos → j ≠ pos → IsChild i j →
    leq data[i] data[j] = true
  bridged : Bridged data pos

omit [Ord α] in
theorem swap_other {data : Vector α n} {first second i : Nat}
    (firstBound : first < n) (secondBound : second < n) (bound : i < n)
    (notFirst : i ≠ first) (notSecond : i ≠ second) :
    (data.swap first second)[i] = data[i] :=
  Vector.getElem_swap_of_ne notFirst notSecond

theorem siftUp_perm (data : Vector α n) (pos : Nat) (bound : pos < n) :
    (siftUp data pos bound).toList.Perm data.toList := by
  induction data, pos, bound using siftUp.induct with
  | case1 data pos bound positive parentBound stop =>
      rw [siftUp, dif_pos positive, if_pos stop]
  | case2 data pos bound positive parentBound go induction =>
      rw [siftUp, dif_pos positive, if_neg go]
      exact induction.trans (Vector.swap_perm bound parentBound).toList
  | case3 data pos bound root =>
      rw [siftUp, dif_neg root]

theorem siftDownToBottom_perm (data : Vector α n) (pos : Nat)
    (bound : pos < n) :
    (siftDownToBottom data pos bound).toList.Perm data.toList := by
  induction data, pos, bound using siftDownToBottom.induct with
  | case1 data pos bound both right induction =>
      rw [siftDownToBottom, dif_pos both, if_pos right]
      exact induction.trans (Vector.swap_perm bound both).toList
  | case2 data pos bound both left induction =>
      rw [siftDownToBottom, dif_pos both, if_neg left]
      exact induction.trans (Vector.swap_perm bound (by omega)).toList
  | case3 data pos bound both single =>
      rw [siftDownToBottom, dif_neg both, dif_pos single]
      exact (siftUp_perm _ _ _).trans (Vector.swap_perm bound single).toList
  | case4 data pos bound both single =>
      rw [siftDownToBottom, dif_neg both, dif_neg single]
      exact siftUp_perm _ _ _

section Order

variable [Std.TransOrd α]

theorem UpOrdered.move {data : Vector α n} {pos : Nat} (bound : pos < n)
    (positive : 0 < pos) (parentBound : parent pos < n)
    (ordered : UpOrdered data pos)
    (greater : leq data[parent pos] data[pos] = true) :
    UpOrdered (data.swap pos (parent pos)) (parent pos) := by
  have below : parent pos < pos := parent_lt positive
  constructor
  · intro i j iBound jBound notParent isChild
    by_cases iPos : i = pos
    · -- the old parent, now one level down
      subst iPos
      obtain rfl : parent i = j := isChild.2
      simpa using greater
    · by_cases jPos : j = pos
      · subst jPos
        rw [swap_other bound parentBound iBound iPos notParent,
          Vector.getElem_swap_left]
        exact ordered.bridged i (parent j) iBound parentBound isChild
          ⟨positive, rfl⟩
      · by_cases jParent : j = parent pos
        · subst jParent
          rw [swap_other bound parentBound iBound iPos notParent,
            Vector.getElem_swap_right]
          exact leq_trans (ordered.other i _ iBound parentBound iPos isChild)
            greater
        · rw [swap_other bound parentBound iBound iPos notParent,
            swap_other bound parentBound jBound jPos jParent]
          exact ordered.other i j iBound jBound iPos isChild
  · intro i j iBound jBound isChild upper
    have jBelow : j < parent pos := upper.lt
    rw [swap_other bound parentBound jBound (by omega) (by omega)]
    have top : leq data[parent pos] data[j] = true :=
      ordered.other _ j parentBound jBound (by omega) upper
    by_cases iPos : i = pos
    · subst iPos
      simpa using top
    · have iBelow := isChild.lt
      rw [swap_other bound parentBound iBound iPos (by omega)]
      exact leq_trans (ordered.other i _ iBound parentBound iPos isChild) top

theorem siftUp_ordered (data : Vector α n) (pos : Nat) (bound : pos < n)
    (ordered : UpOrdered data pos) : Ordered (siftUp data pos bound) := by
  induction data, pos, bound using siftUp.induct with
  | case1 data pos bound positive parentBound stop =>
      rw [siftUp, dif_pos positive, if_pos stop]
      intro i j iBound jBound isChild
      by_cases iPos : i = pos
      · subst iPos
        obtain rfl : parent i = j := isChild.2
        exact stop
      · exact ordered.other i j iBound jBound iPos isChild
  | case2 data pos bound positive parentBound go induction =>
      rw [siftUp, dif_pos positive, if_neg go]
      exact induction
        (ordered.move bound positive parentBound (leq_of_not go))
  | case3 data pos bound root =>
      rw [siftUp, dif_neg root]
      intro i j iBound jBound isChild
      have positive := isChild.1
      exact ordered.other i j iBound jBound (by omega) isChild

omit [Std.TransOrd α] in
theorem DownOrdered.move {data : Vector α n} {pos child : Nat}
    (bound : pos < n) (childBound : child < n) (isChild : IsChild child pos)
    (ordered : DownOrdered data pos)
    (greatest : ∀ i (_ : i < n), IsChild i pos →
      leq data[i] data[child] = true) :
    DownOrdered (data.swap pos child) child := by
  have below : pos < child := isChild.lt
  constructor
  · intro i j iBound jBound notChild notParent pair
    by_cases iPos : i = pos
    · subst iPos
      have jBelow := pair.lt
      rw [Vector.getElem_swap_left,
        swap_other bound childBound jBound (by omega) notParent]
      exact ordered.bridged child j childBound jBound isChild pair
    · by_cases jPos : j = pos
      · subst jPos
        rw [Vector.getElem_swap_left,
          swap_other bound childBound iBound iPos notChild]
        exact greatest i iBound pair
      · rw [swap_other bound childBound iBound iPos notChild,
          swap_other bound childBound jBound jPos notParent]
        exact ordered.other i j iBound jBound iPos jPos pair
  · intro i j iBound jBound lower upper
    obtain rfl : pos = j := isChild.2.symm.trans upper.2
    have iBelow := lower.lt
    rw [Vector.getElem_swap_left,
      swap_other bound childBound iBound (by omega) (by omega)]
    exact ordered.other i child iBound childBound (by omega) (by omega) lower

theorem siftDownToBottom_ordered (data : Vector α n) (pos : Nat)
    (bound : pos < n) (ordered : DownOrdered data pos) :
    Ordered (siftDownToBottom data pos bound) := by
  induction data, pos, bound using siftDownToBottom.induct with
  | case1 data pos bound both right induction =>
      rw [siftDownToBottom, dif_pos both, if_pos right]
      refine induction (ordered.move bound both (isChild_right pos) ?_)
      intro i iBound isChild
      rcases isChild.eq_or with rfl | rfl
      · exact right
      · exact leq_refl _
  | case2 data pos bound both left induction =>
      rw [siftDownToBottom, dif_pos both, if_neg left]
      refine induction
        (ordered.move bound (by omega) (isChild_left pos) ?_)
      intro i iBound isChild
      rcases isChild.eq_or with rfl | rfl
      · exact leq_refl _
      · exact leq_of_not left
  | case3 data pos bound both single =>
      rw [siftDownToBottom, dif_neg both, dif_pos single]
      have moved : DownOrdered (data.swap pos (2 * pos + 1)) (2 * pos + 1) := by
        refine ordered.move bound single (isChild_left pos) ?_
        intro i iBound isChild
        rcases isChild.eq_or with rfl | rfl
        · exact leq_refl _
        · omega
      refine siftUp_ordered _ _ _ ⟨?_, moved.bridged⟩
      intro i j iBound jBound notPos isChild
      have children := isChild.eq_or
      exact moved.other i j iBound jBound notPos (by omega) isChild
  | case4 data pos bound both single =>
      rw [siftDownToBottom, dif_neg both, dif_neg single]
      refine siftUp_ordered _ _ _ ⟨?_, ordered.bridged⟩
      intro i j iBound jBound notPos isChild
      have children := isChild.eq_or
      exact ordered.other i j iBound jBound notPos (by omega) isChild

theorem Ordered.leq_root {data : Vector α n} (ordered : Ordered data)
    (nonempty : 0 < n) (pos : Nat) (bound : pos < n) :
    leq data[pos] data[0] = true := by
  induction pos using Nat.strongRecOn with
  | ind pos induction =>
      by_cases positive : 0 < pos
      · have below := parent_lt positive
        have parentBound : parent pos < n := by omega
        exact leq_trans
          (ordered pos (parent pos) bound parentBound ⟨positive, rfl⟩)
          (induction (parent pos) below parentBound)
      · obtain rfl : pos = 0 := by omega
        exact leq_refl _

end Order

end BinaryHeap

/-- A heap carries the order of its array, so an unordered one cannot be
built. -/
structure BinaryHeap (α : Type) [Ord α] where
  size : Nat
  data : Vector α size
  ordered : BinaryHeap.Ordered data

namespace BinaryHeap

def toList (heap : BinaryHeap α) : List α := heap.data.toList

def new : BinaryHeap α where
  size := 0
  data := #v[]
  ordered := fun i _ bound => absurd bound (Nat.not_lt_zero i)

def peek (heap : BinaryHeap α) : Option α := heap.data[0]?

def isEmpty (heap : BinaryHeap α) : Bool := heap.size == 0

@[simp] theorem toList_new : (new : BinaryHeap α).toList = [] := rfl

@[simp] theorem length_toList (heap : BinaryHeap α) :
    heap.toList.length = heap.size := by
  simp [toList]

variable [Std.TransOrd α]

omit [Std.TransOrd α] in
theorem upOrdered_push {data : Vector α n} (ordered : Ordered data)
    (value : α) : UpOrdered (data.push value) n := by
  constructor
  · intro i j iBound jBound notLast isChild
    have below := isChild.lt
    rw [Vector.getElem_push_lt (by omega), Vector.getElem_push_lt (by omega)]
    exact ordered i j (by omega) (by omega) isChild
  · intro i j iBound jBound isChild upper
    have below := isChild.lt
    omega

def push (heap : BinaryHeap α) (value : α) : BinaryHeap α where
  size := heap.size + 1
  data := siftUp (heap.data.push value) heap.size (Nat.lt_succ_self _)
  ordered := siftUp_ordered _ _ _ (upOrdered_push heap.ordered value)

omit [Std.TransOrd α] in
theorem downOrdered_replaceRoot {data : Vector α (n + 2)}
    (ordered : Ordered data) :
    DownOrdered (data.pop.set 0 data.back) 0 := by
  constructor
  · intro i j iBound jBound iPos jPos isChild
    rw [Vector.getElem_set_ne _ _ (by omega),
      Vector.getElem_set_ne _ _ (by omega)]
    simp only [Vector.getElem_pop']
    exact ordered i j (by omega) (by omega) isChild
  · intro i j iBound jBound isChild upper
    exact absurd upper.1 (Nat.lt_irrefl 0)

def pop : BinaryHeap α → Option (α × BinaryHeap α)
  | ⟨0, _, _⟩ => none
  | ⟨1, data, _⟩ => some (data.back, new)
  | ⟨_ + 2, data, ordered⟩ =>
      some (data[0], {
        size := _
        data := siftDownToBottom (data.pop.set 0 data.back) 0
          (Nat.succ_pos _)
        ordered := siftDownToBottom_ordered _ _ _
          (downOrdered_replaceRoot ordered) })

theorem toList_push_perm (heap : BinaryHeap α) (value : α) :
    (heap.push value).toList.Perm (value :: heap.toList) := by
  have pushed : (heap.data.push value).toList.Perm
      (value :: heap.data.toList) := by
    rw [Vector.toList_push]
    exact List.perm_append_comm
  exact (siftUp_perm _ _ _).trans pushed

theorem mem_push {heap : BinaryHeap α} {value other : α} :
    other ∈ (heap.push value).toList ↔ other = value ∨ other ∈ heap.toList := by
  rw [(heap.toList_push_perm value).mem_iff, List.mem_cons]

theorem toList_pop_perm {heap rest : BinaryHeap α} {value : α}
    (popped : heap.pop = some (value, rest)) :
    heap.toList.Perm (value :: rest.toList) := by
  match heap with
  | ⟨1, data, _⟩ =>
      obtain ⟨rfl, rfl⟩ : data.back = value ∧ new = rest := by
        simpa [pop] using popped
      obtain ⟨⟨list⟩, size⟩ := data
      match list, size with
      | [only], _ => rfl
  | ⟨n + 2, data, ordered⟩ =>
      simp only [pop, Option.some.injEq, Prod.mk.injEq] at popped
      obtain ⟨rfl, rfl⟩ := popped
      refine List.Perm.trans ?_
        ((siftDownToBottom_perm _ _ _).symm.cons data[0])
      have split : data.toList = data.pop.toList ++ [data.back] := by
        conv_lhs => rw [← data.push_pop_back, Vector.toList_push]
      have root : data.pop.toList = data[0] :: data.pop.toList.tail := by
        have nonempty : 0 < data.pop.toList.length := by simp
        rw [← List.cons_head_tail (List.ne_nil_of_length_pos nonempty)]
        simp [List.head_eq_getElem]
      have replaced : (data.pop.set 0 data.back).toList =
          data.back :: data.pop.toList.tail := by
        rw [Vector.toList_set, root]
        rfl
      show data.toList.Perm (data[0] :: (data.pop.set 0 data.back).toList)
      rw [split, replaced, root]
      exact List.perm_append_comm.cons data[0]

theorem pop_eq_none {heap : BinaryHeap α} (empty : heap.pop = none) :
    heap.toList = [] := by
  match heap with
  | ⟨0, data, _⟩ =>
      exact List.length_eq_zero_iff.mp (by simp [toList])
  | ⟨1, _, _⟩ => simp [pop] at empty
  | ⟨_ + 2, _, _⟩ => simp [pop] at empty

theorem pop_peek (heap : BinaryHeap α) :
    heap.peek = heap.pop.map Prod.fst := by
  match heap with
  | ⟨0, _, _⟩ => simp [peek, pop]
  | ⟨1, data, _⟩ => simp [peek, pop, Vector.back_eq_getElem]
  | ⟨_ + 2, data, _⟩ => simp [peek, pop]

theorem leq_of_pop {heap rest : BinaryHeap α} {value other : α}
    (popped : heap.pop = some (value, rest)) (member : other ∈ heap.toList) :
    leq other value = true := by
  have peeked : heap.peek = some value := by
    rw [pop_peek, popped]
    rfl
  obtain ⟨nonempty, rfl⟩ := Vector.getElem?_eq_some_iff.mp peeked
  obtain ⟨pos, bound, rfl⟩ := List.mem_iff_getElem.mp member
  have inside : pos < heap.size := by simpa using bound
  simpa [toList] using heap.ordered.leq_root nonempty pos inside

theorem mem_of_pop {heap rest : BinaryHeap α} {value : α}
    (popped : heap.pop = some (value, rest)) : value ∈ heap.toList :=
  (toList_pop_perm popped).mem_iff.mpr List.mem_cons_self

theorem mem_of_mem_rest {heap rest : BinaryHeap α} {value other : α}
    (popped : heap.pop = some (value, rest)) (member : other ∈ rest.toList) :
    other ∈ heap.toList :=
  (toList_pop_perm popped).mem_iff.mpr (List.mem_cons_of_mem value member)

end BinaryHeap

end StellarConduit.Data
