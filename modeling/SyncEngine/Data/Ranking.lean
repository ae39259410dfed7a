import Mathlib.Data.List.Sort

namespace StellarConduit.Data

/-! Sorting by a comparison, as Rust's stable `sort_by`, and what a second
comparison makes of the ties of a first. -/

section

variable {α β : Type} (cmp : α → α → Ordering)

def sortWith (xs : List α) : List α :=
  xs.mergeSort fun first second => (cmp first second).isLE

theorem sortWith_perm (xs : List α) : (sortWith cmp xs).Perm xs :=
  List.mergeSort_perm _ _

theorem sortWith_pair (first second : α) :
    sortWith cmp [first, second] =
      if (cmp first second).isLE then [first, second]
      else [second, first] := by
  rw [sortWith, List.mergeSort]
  simp only [List.MergeSort.Internal.splitInTwo, List.length_cons,
    List.length_nil, Nat.reduceAdd, Nat.reduceDiv, List.splitAt_eq,
    List.take_succ_cons, List.take_zero, List.drop_succ_cons,
    List.drop_zero, List.mergeSort_singleton]
  rw [List.cons_merge_cons]
  simp

theorem pairwise_sortWith [Std.TransCmp cmp] (xs : List α) :
    (sortWith cmp xs).Pairwise fun first second =>
      (cmp first second).isLE = true := by
  apply List.pairwise_mergeSort
  · intro first second third
    exact Std.TransCmp.isLE_trans
  · intro first second
    have swapped : cmp second first = (cmp first second).swap :=
      Std.OrientedCmp.eq_swap
    rw [swapped]
    cases cmp first second <;> rfl

/-- Sorting what a function decorates is sorting by what it decorates with. -/
theorem sortWith_map (decorate : β → α) (xs : List β) :
    sortWith cmp (xs.map decorate) =
      (sortWith (fun first second => cmp (decorate first) (decorate second))
        xs).map decorate := by
  refine Eq.symm (List.map_mergeSort ?_)
  intro first _ second _
  rfl

theorem pairwise_sortWith_map [Std.TransCmp cmp] (decorate : β → α)
    (xs : List β) :
    (sortWith (fun first second => cmp (decorate first) (decorate second))
      xs).Pairwise fun first second =>
        (cmp (decorate first) (decorate second)).isLE = true := by
  have sorted := pairwise_sortWith cmp (xs.map decorate)
  rw [sortWith_map] at sorted
  exact List.pairwise_map.mp sorted

end

/-- Lexicographic order, as what each level says. -/
theorem isLE_of_then {α : Type} [Ord α] [Std.ReflOrd α] {lower upper : α}
    {ties : Ordering}
    (ordered : ((compare lower upper).then ties).isLE = true) :
    (compare lower upper).isLE = true ∧
      (lower = upper → ties.isLE = true) := by
  refine ⟨(Ordering.isLE_then_iff_and.mp ordered).1, ?_⟩
  intro tied
  rwa [tied, Std.ReflOrd.compare_self, Ordering.eq_then] at ordered

section

variable {κ ν : Type} {coarse : κ → κ → Prop} {fine : ν → ν → Prop}
  [Std.Antisymm coarse] [Std.Antisymm fine] {xs ys : List (κ × ν)}

/-- A list sorted by its first components has the second components of the
sorted list exactly if its ties are sorted as well. -/
theorem map_snd_eq_iff (perm : ys.Perm xs)
    (sorted : xs.Pairwise fun first second =>
      coarse first.1 second.1 ∧ (first.1 = second.1 → fine first.2 second.2))
    (coarsely : ys.Pairwise fun first second => coarse first.1 second.1) :
    xs.map Prod.snd = ys.map Prod.snd ↔
      ys.Pairwise fun first second =>
        first.1 = second.1 → fine first.2 second.2 := by
  constructor
  · intro same
    have firstKeys : (xs.map Prod.fst).Pairwise coarse :=
      List.pairwise_map.mpr (sorted.imp And.left)
    have secondKeys : (ys.map Prod.fst).Pairwise coarse :=
      List.pairwise_map.mpr coarsely
    have keys : xs.map Prod.fst = ys.map Prod.fst := by
      refine List.Perm.eq_of_pairwise ?_ firstKeys secondKeys
        (perm.symm.map Prod.fst)
      intro first second _ _ below above
      exact Std.Antisymm.antisymm _ _ below above
    have equal : xs = ys := by
      rw [← List.zip_unzip xs, ← List.zip_unzip ys, List.unzip_eq_map,
        List.unzip_eq_map, keys, same]
    exact equal ▸ sorted.imp And.right
  · intro settled
    have equal : xs = ys := by
      refine List.Perm.eq_of_pairwise ?_ sorted (coarsely.and settled)
        perm.symm
      rintro ⟨firstKey, first⟩ ⟨secondKey, second⟩ _ _
        ⟨below, lower⟩ ⟨above, upper⟩
      obtain rfl : firstKey = secondKey :=
        Std.Antisymm.antisymm _ _ below above
      obtain rfl : first = second :=
        Std.Antisymm.antisymm _ _ (lower rfl) (upper rfl)
      rfl
    rw [equal]

end

end StellarConduit.Data
