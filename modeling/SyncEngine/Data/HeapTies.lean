import SyncEngine.Data.BinaryHeap
import SyncEngine.Data.Run

namespace StellarConduit.Data

variable {α : Type} [Ord α]

/-! Which of several greatest elements a heap has at its root, beside the order
in which they came. -/

/-- The first of the greatest elements of a list. -/
def Foremost (held : List α) (value : α) : Prop :=
  ∃ earlier later, held = earlier ++ value :: later ∧
    (∀ other ∈ earlier, leq value other = false) ∧
    ∀ other ∈ later, leq other value = true

section

variable [Std.TransOrd α] {held : List α} {value added : α}

theorem leq_of_not_leq (strict : leq value added = false) :
    leq added value = true := by
  apply leq_of_not
  rw [strict]
  exact Bool.false_ne_true

theorem Foremost.leq (foremost : Foremost held value) (other : α)
    (member : other ∈ held) : leq other value = true := by
  obtain ⟨earlier, later, rfl, before, after⟩ := foremost
  rcases List.mem_append.mp member with isEarlier | rest
  · exact leq_of_not_leq (before other isEarlier)
  · rcases List.mem_cons.mp rest with rfl | isLater
    · exact leq_refl _
    · exact after other isLater

/-- What comes later takes the place of the foremost only if it is greater. -/
theorem foremost_snoc_iff (member : value ∈ held)
    (lower : leq added value = true) :
    Foremost (held ++ [added]) value ↔ Foremost held value := by
  constructor
  · rintro ⟨earlier, later, split, before, after⟩
    rcases snoc_eq_append_cons split with ⟨-, rfl, -⟩ | ⟨rest, rfl, rfl⟩
    · have strict := before value member
      rw [leq_refl] at strict
      cases strict
    · exact ⟨earlier, rest, rfl, before, fun other isLater =>
        after other (List.mem_append_left _ isLater)⟩
  · rintro ⟨earlier, later, rfl, before, after⟩
    refine ⟨earlier, later ++ [added], by simp, before, ?_⟩
    intro other isLater
    rcases List.mem_append.mp isLater with old | new
    · exact after other old
    · obtain rfl := List.mem_singleton.mp new
      exact lower

omit [Std.TransOrd α] in
theorem foremost_snoc_of_greater
    (greater : ∀ other ∈ held, leq added other = false) :
    Foremost (held ++ [added]) added :=
  ⟨held, [], rfl, greater, by simp⟩

end

namespace BinaryHeap

/-! The root through both sifts. -/

/-- An exchange below the root carries what is not greater than it. -/
theorem swap_below_root (data : Vector α n) {pos other : Nat}
    (bound : pos < n) (otherBound : other < n) (positive : 0 < pos)
    (otherPositive : 0 < other) (nonempty : 0 < n)
    (lower : leq data[pos] data[0] = true) :
    (data.swap pos other)[0] = data[0] ∧
      leq (data.swap pos other)[other] (data.swap pos other)[0] = true := by
  have root : (data.swap pos other)[0] = data[0] :=
    swap_other bound otherBound nonempty (by omega) (by omega)
  refine ⟨root, ?_⟩
  rw [Vector.getElem_swap_right, root]
  exact lower

theorem siftUp_root (data : Vector α n) (pos : Nat) (bound : pos < n)
    (nonempty : 0 < n) (lower : leq data[pos] data[0] = true) :
    (siftUp data pos bound)[0] = data[0] := by
  induction data, pos, bound using siftUp.induct with
  | case1 data pos bound positive parentBound stop =>
      rw [siftUp, dif_pos positive, if_pos stop]
  | case2 data pos bound positive parentBound go induction =>
      have below : 0 < parent pos := by
        refine Nat.pos_of_ne_zero fun root => go ?_
        simpa [root] using lower
      obtain ⟨root, kept⟩ := swap_below_root data bound parentBound positive
        below nonempty lower
      rw [siftUp, dif_pos positive, if_neg go, ← root]
      exact induction kept
  | case3 data pos bound root =>
      rw [siftUp, dif_neg root]

theorem siftDownToBottom_root (data : Vector α n) (pos : Nat)
    (bound : pos < n) (positive : 0 < pos) (nonempty : 0 < n)
    (lower : leq data[pos] data[0] = true) :
    (siftDownToBottom data pos bound)[0] = data[0] := by
  induction data, pos, bound using siftDownToBottom.induct with
  | case1 data pos bound both right induction =>
      obtain ⟨root, kept⟩ := swap_below_root data bound both positive
        (by omega) nonempty lower
      rw [siftDownToBottom, dif_pos both, if_pos right, ← root]
      exact induction (by omega) kept
  | case2 data pos bound both left induction =>
      obtain ⟨root, kept⟩ := swap_below_root data bound
        (by omega : 2 * pos + 1 < _) positive (by omega) nonempty lower
      rw [siftDownToBottom, dif_pos both, if_neg left, ← root]
      exact induction (by omega) kept
  | case3 data pos bound both single =>
      obtain ⟨root, kept⟩ := swap_below_root data bound single positive
        (by omega) nonempty lower
      rw [siftDownToBottom, dif_neg both, dif_pos single, ← root]
      exact siftUp_root _ _ _ nonempty kept
  | case4 data pos bound both single =>
      rw [siftDownToBottom, dif_neg both, dif_neg single]
      exact siftUp_root _ _ _ nonempty lower

/-! The root after one element has gone all the way down, by the number of
elements. -/

theorem sifted_root_one (data : Vector α 1) :
    (siftDownToBottom data 0 Nat.one_pos)[0] = data[0] := by
  rw [siftDownToBottom, dif_neg (by omega), dif_neg (by omega), siftUp,
    dif_neg (Nat.lt_irrefl 0)]

/-- Of two elements the one at the root stays there only if it is greater. -/
theorem sifted_root_two (data : Vector α 2) :
    (siftDownToBottom data 0 Nat.two_pos)[0] =
      if leq data[0] data[1] then data[1] else data[0] := by
  rw [siftDownToBottom, dif_neg (by omega), dif_pos (by omega), siftUp,
    dif_pos Nat.one_pos]
  have upper : (data.swap 0 1)[0] = data[1] := Vector.getElem_swap_left _ _
  have lower : (data.swap 0 1)[1] = data[0] :=
    Vector.getElem_swap_right _ _
  show (if leq (data.swap 0 1)[1] (data.swap 0 1)[0] then data.swap 0 1
    else siftUp ((data.swap 0 1).swap 1 0) 0 _)[0] = _
  rw [upper, lower]
  split
  · exact upper
  · rw [siftUp, dif_neg (Nat.lt_irrefl 0), Vector.getElem_swap_right, lower]

variable [Std.TransOrd α]

/-- Of more, the greater child takes the place of one that is not greater than
both. -/
theorem sifted_root_many (data : Vector α n) (many : 2 < n)
    (lower : leq data[0] data[1] = true ∨ leq data[0] data[2] = true) :
    (siftDownToBottom data 0 (by omega))[0] =
      if leq data[1] data[2] then data[2] else data[1] := by
  have down (child : Nat) (childBound : child < n) (positive : 0 < child)
      (below : leq data[0] data[child] = true) :
      (siftDownToBottom (data.swap 0 child) child childBound)[0] =
        data[child] := by
    have upper : (data.swap 0 child)[0] = data[child] :=
      Vector.getElem_swap_left _ _
    rw [← upper]
    apply siftDownToBottom_root _ _ _ positive
    rw [upper, Vector.getElem_swap_right]
    exact below
  rw [siftDownToBottom, dif_pos many]
  by_cases right : leq data[1] data[2] = true
  · rw [if_pos right, if_pos right]
    apply down 2 many Nat.two_pos
    rcases lower with first | second
    · exact leq_trans first right
    · exact second
  · rw [if_neg right, if_neg right]
    apply down 1 (by omega) Nat.one_pos
    rcases lower with first | second
    · exact first
    · exact leq_trans second (leq_of_not right)

/-- Below the root, nothing is greater than both of its children. -/
theorem Ordered.leq_child {data : Vector α n} (ordered : Ordered data)
    (children : 2 < n) (pos : Nat) (bound : pos < n) (positive : 0 < pos) :
    leq data[pos] data[1] = true ∨ leq data[pos] data[2] = true := by
  induction pos using Nat.strongRecOn with
  | ind pos induction =>
      by_cases deep : 2 < pos
      · have below := parent_lt positive
        have parentBound : parent pos < n := by omega
        have upper := ordered pos (parent pos) bound parentBound
          ⟨positive, rfl⟩
        have inner : 0 < parent pos := by
          simp only [parent]
          omega
        rcases induction (parent pos) below parentBound inner with
          first | second
        · exact Or.inl (leq_trans upper first)
        · exact Or.inr (leq_trans upper second)
      · obtain rfl | rfl : pos = 1 ∨ pos = 2 := by omega
        · exact Or.inl (leq_refl _)
        · exact Or.inr (leq_refl _)

/-- The element that a pop moves to the root: of two that tie, the right child
when more than three are held. -/
def promoted (heap : BinaryHeap α) : Option α :=
  if many : 3 < heap.size then
    if leq heap.data[1] heap.data[2] then some heap.data[2]
    else some heap.data[1]
  else if three : 2 < heap.size then
    if leq heap.data[2] heap.data[1] then some heap.data[1]
    else some heap.data[2]
  else
    heap.data[1]?

theorem peek_of_pop {heap rest : BinaryHeap α} {value : α}
    (popped : heap.pop = some (value, rest)) :
    rest.peek = heap.promoted := by
  match heap with
  | ⟨1, data, _⟩ =>
      obtain ⟨-, rfl⟩ : data.back = value ∧ new = rest := by
        simpa [pop] using popped
      rfl
  | ⟨2, data, ordered⟩ =>
      simp only [pop, Option.some.injEq, Prod.mk.injEq] at popped
      obtain ⟨-, rfl⟩ := popped
      have root := sifted_root_one (data.pop.set 0 data.back)
      simpa [peek, promoted, Vector.back_eq_getElem] using root
  | ⟨3, data, ordered⟩ =>
      simp only [pop, Option.some.injEq, Prod.mk.injEq] at popped
      obtain ⟨-, rfl⟩ := popped
      have root := sifted_root_two (data.pop.set 0 data.back)
      simpa [peek, promoted, Vector.back_eq_getElem, apply_ite] using root
  | ⟨n + 4, data, ordered⟩ =>
      simp only [pop, Option.some.injEq, Prod.mk.injEq] at popped
      obtain ⟨-, rfl⟩ := popped
      have last := ordered.leq_child (by omega) (n + 3) (by omega) (by omega)
      have root := sifted_root_many (data.pop.set 0 data.back) (by omega)
        (by simpa [Vector.back_eq_getElem] using last)
      simpa [peek, promoted, Vector.back_eq_getElem, apply_ite] using root

theorem leq_of_peek {heap : BinaryHeap α} {root other : α}
    (peeked : root ∈ heap.peek) (member : other ∈ heap.toList) :
    leq other root = true := by
  cases popped : heap.pop with
  | none =>
      rw [pop_eq_none popped] at member
      cases member
  | some pair =>
      rw [heap.pop_peek, popped] at peeked
      obtain rfl := Option.some.inj peeked
      exact leq_of_pop popped member

omit [Std.TransOrd α] in
theorem mem_of_peek {heap : BinaryHeap α} {root : α}
    (peeked : root ∈ heap.peek) : root ∈ heap.toList := by
  obtain ⟨nonempty, rfl⟩ := Vector.getElem?_eq_some_iff.mp peeked
  simp [toList]

/-- A push changes the root only if the new element is greater. -/
theorem peek_push {heap : BinaryHeap α} {root : α} (peeked : root ∈ heap.peek)
    (value : α) :
    (heap.push value).peek =
      some (if leq value root then root else value) := by
  obtain ⟨nonempty, rfl⟩ := Vector.getElem?_eq_some_iff.mp peeked
  by_cases lower : leq value heap.data[0] = true
  · have old : (heap.data.push value)[0] = heap.data[0] :=
      Vector.getElem_push_lt nonempty
    have kept := siftUp_root (heap.data.push value) heap.size (by omega)
      (by omega) (by simpa [old] using lower)
    rw [if_pos lower]
    exact Vector.getElem?_eq_some_iff.mpr ⟨Nat.succ_pos _, kept.trans old⟩
  · obtain ⟨top, found⟩ : ∃ top, top ∈ (heap.push value).peek :=
      ⟨_, Vector.getElem?_eq_some_iff.mpr ⟨Nat.succ_pos _, rfl⟩⟩
    rw [if_neg lower, Option.mem_def.mp found]
    rcases mem_push.mp (mem_of_peek found) with rfl | old
    · rfl
    · have above := leq_of_peek found (mem_push.mpr (Or.inl rfl))
      exact absurd (leq_trans above (leq_of_peek peeked old)) lower

theorem toList_of_peek {heap : BinaryHeap α} (empty : heap.peek = none) :
    heap.toList = [] := by
  apply pop_eq_none
  rw [heap.pop_peek] at empty
  exact Option.map_eq_none_iff.mp empty

theorem exists_peek_push (heap : BinaryHeap α) (value : α) :
    ∃ top, top ∈ (heap.push value).peek :=
  ⟨_, Vector.getElem?_eq_some_iff.mpr ⟨Nat.succ_pos _, rfl⟩⟩

/-- The root is the first of the greatest elements, by the order `held` in
which the elements came. -/
def Fair (heap : BinaryHeap α) (held : List α) : Prop :=
  ∀ root ∈ heap.peek, Foremost held root

variable {heap : BinaryHeap α} {held : List α}

omit [Std.TransOrd α] in
theorem fair_of_peek {root : α} (peeked : root ∈ heap.peek) :
    heap.Fair held ↔ Foremost held root := by
  constructor
  · intro fair
    exact fair root peeked
  · intro foremost other found
    obtain rfl := Option.mem_unique found peeked
    exact foremost

/-- A push makes a heap fair only with an element greater than all. -/
theorem fair_push (perm : heap.toList.Perm held) (value : α) :
    (heap.push value).Fair (held ++ [value]) ↔
      heap.Fair held ∨ ∃ root ∈ heap.peek, leq value root = false := by
  cases peeked : heap.peek with
  | none =>
      have empty := toList_of_peek peeked
      obtain rfl : held = [] := List.nil_perm.mp (empty ▸ perm)
      obtain ⟨top, found⟩ := heap.exists_peek_push value
      have same : top = value := by
        simpa [mem_push, empty] using mem_of_peek found
      rw [fair_of_peek found, same]
      constructor
      · intro _
        refine Or.inl fun root found => ?_
        rw [peeked] at found
        cases found
      · intro _
        exact foremost_snoc_of_greater (by simp)
  | some root =>
      have pushed := peek_push peeked value
      rw [fair_of_peek peeked]
      by_cases lower : leq value root = true
      · rw [if_pos lower] at pushed
        rw [fair_of_peek pushed, foremost_snoc_iff
          (perm.mem_iff.mp (mem_of_peek peeked)) lower]
        simp [lower]
      · rw [if_neg lower] at pushed
        have strict : leq value root = false := eq_false_of_ne_true lower
        rw [fair_of_peek pushed]
        constructor
        · intro _
          exact Or.inr ⟨root, rfl, strict⟩
        · intro _
          apply foremost_snoc_of_greater
          intro other member
          rw [← Bool.not_eq_true]
          intro above
          exact lower (leq_trans above
            (leq_of_peek peeked (perm.mem_iff.mpr member)))

def pushAll (heap : BinaryHeap α) (values : List α) : BinaryHeap α :=
  values.foldl push heap

theorem fair_pushAll (perm : heap.toList.Perm held) (values : List α) :
    (heap.pushAll values).Fair (held ++ values) ↔
      heap.Fair held ∨
        ∃ root ∈ heap.peek, ∃ value ∈ values, leq value root = false := by
  induction values generalizing heap held with
  | nil =>
      simp [pushAll]
  | cons value rest induction =>
      have pushed : (heap.push value).toList.Perm (held ++ [value]) :=
        (heap.toList_push_perm value).trans
          ((perm.cons value).trans (List.perm_append_singleton _ _).symm)
      rw [List.append_cons, pushAll, List.foldl_cons]
      refine (induction pushed).trans ?_
      rw [fair_push perm]
      cases peeked : heap.peek with
      | none =>
          have fair : heap.Fair held := by
            intro root found
            rw [peeked] at found
            cases found
          simp [fair]
      | some root =>
          have found := peek_push peeked value
          by_cases lower : leq value root = true
          · rw [if_pos lower] at found
            simp [found, lower]
          · have strict := eq_false_of_ne_true lower
            simp [strict]

end BinaryHeap

end StellarConduit.Data
