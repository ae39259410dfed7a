import Mathlib.Data.List.Sort
import Mathlib.Data.Prod.Lex

namespace StellarConduit.Data

/-! Lists sorted by a key, without repetitions, and the pairs that two nested
loops over such a list visit. -/

section

variable {α κ : Type} [LinearOrder κ] (key : α → κ)

def Increasing (xs : List α) : Prop :=
  xs.Pairwise fun first second => key first < key second

def sortBy (xs : List α) : List α :=
  xs.mergeSort fun first second => decide (key first ≤ key second)

theorem sortBy_perm (xs : List α) : (sortBy key xs).Perm xs :=
  List.mergeSort_perm _ _

@[simp] theorem mem_sortBy {xs : List α} {x : α} :
    x ∈ sortBy key xs ↔ x ∈ xs :=
  (sortBy_perm key xs).mem_iff

theorem pairwise_sortBy (xs : List α) :
    (sortBy key xs).Pairwise fun first second => key first ≤ key second := by
  have sorted : (sortBy key xs).Pairwise fun first second =>
      decide (key first ≤ key second) = true :=
    List.pairwise_mergeSort
      (fun first second third => by simpa using le_trans)
      (fun first second => by simpa using le_total (key first) (key second)) xs
  exact sorted.imp fun ordered => of_decide_eq_true ordered

variable {key}

theorem Increasing.nodup {xs : List α} (increasing : Increasing key xs) :
    xs.Nodup :=
  increasing.imp fun below same => (same ▸ below).false

theorem Increasing.head_le {x : α} {xs : List α}
    (increasing : Increasing key (x :: xs)) {y : α} (member : y ∈ x :: xs) :
    key x ≤ key y := by
  rcases List.mem_cons.mp member with rfl | later
  · exact le_rfl
  · exact ((List.pairwise_cons.mp increasing).1 y later).le

theorem Increasing.le_getLast {xs : List α} (increasing : Increasing key xs)
    (nonempty : xs ≠ []) {y : α} (member : y ∈ xs) :
    key y ≤ key (xs.getLast nonempty) := by
  rw [Increasing, ← List.dropLast_append_getLast nonempty] at increasing
  rw [← List.dropLast_append_getLast nonempty] at member
  rcases List.mem_append.mp member with earlier | single
  · exact ((List.pairwise_append.mp increasing).2.2 y earlier _
      (List.mem_singleton_self _)).le
  · rw [List.mem_singleton.mp single]

/-- An increasing list is determined by its members. -/
theorem Increasing.ext {xs ys : List α} (first : Increasing key xs)
    (second : Increasing key ys) (same : ∀ x, x ∈ xs ↔ x ∈ ys) : xs = ys := by
  have : Std.Antisymm fun first second : α => key first < key second :=
    ⟨fun _ _ below above => absurd above below.asymm⟩
  have : Std.Irrefl fun first second : α => key first < key second :=
    ⟨fun _ => lt_irrefl _⟩
  exact List.Pairwise.eq_of_mem_iff first second same

theorem increasing_of_sorted (injective : Function.Injective key)
    {xs : List α} (nodup : xs.Nodup)
    (sorted : xs.Pairwise fun first second => key first ≤ key second) :
    Increasing key xs :=
  sorted.imp₂ (fun _ _ ordered differ => lt_of_le_of_ne ordered
    fun same => differ (injective same)) nodup

theorem increasing_sortBy (injective : Function.Injective key) {xs : List α}
    (nodup : xs.Nodup) : Increasing key (sortBy key xs) :=
  increasing_of_sorted injective ((sortBy_perm key xs).nodup_iff.mpr nodup)
    (pairwise_sortBy key xs)

/-- Distinct keys sort into an increasing list. -/
theorem increasing_sortBy_of_nodup {xs : List α} (distinct : (xs.map key).Nodup) :
    Increasing key (sortBy key xs) := by
  have sorted := ((sortBy_perm key xs).map key).nodup_iff.mpr distinct
  exact ((pairwise_sortBy key xs).and (List.pairwise_map.mp sorted)).imp
    fun both => lt_of_le_of_ne both.1 both.2

theorem sortBy_eq_self {xs : List α} (increasing : Increasing key xs) :
    sortBy key xs = xs :=
  List.mergeSort_of_pairwise (increasing.imp fun below =>
    decide_eq_true below.le)

theorem sortBy_eq_of_perm (injective : Function.Injective key)
    {xs ys : List α} (perm : xs.Perm ys) : sortBy key xs = sortBy key ys := by
  refine List.Perm.eq_of_pairwise ?_ (pairwise_sortBy key xs)
    (pairwise_sortBy key ys)
    ((sortBy_perm key xs).trans (perm.trans (sortBy_perm key ys).symm))
  intro first second _ _ below above
  exact injective (le_antisymm below above)

end

/-- Of every run of equal elements only the first is kept. -/
def dedupRuns {α : Type} [DecidableEq α] : List α → List α
  | [] => []
  | [last] => [last]
  | first :: second :: rest =>
      if first = second then dedupRuns (second :: rest)
      else first :: dedupRuns (second :: rest)

/-- The pairs `(xs[i], xs[j])` with `i < j`, ordered by `i` and then by `j`. -/
def allPairs {α : Type} : List α → List (α × α)
  | [] => []
  | first :: rest => rest.map (fun second => (first, second)) ++ allPairs rest

section

variable {α κ : Type} [DecidableEq α] [LinearOrder κ] {key : α → κ}

@[simp] theorem mem_dedupRuns {xs : List α} {x : α} :
    x ∈ dedupRuns xs ↔ x ∈ xs := by
  induction xs using dedupRuns.induct with
  | case1 => rfl
  | case2 last => rfl
  | case3 second rest induction =>
      rw [dedupRuns, if_pos rfl, induction]
      simp
  | case4 first second rest differ induction =>
      rw [dedupRuns, if_neg differ, List.mem_cons, induction]
      simp only [List.mem_cons]

theorem increasing_dedupRuns (injective : Function.Injective key)
    {xs : List α}
    (sorted : xs.Pairwise fun first second => key first ≤ key second) :
    Increasing key (dedupRuns xs) := by
  induction xs using dedupRuns.induct with
  | case1 => exact List.Pairwise.nil
  | case2 last => exact List.pairwise_singleton _ _
  | case3 second rest induction =>
      rw [dedupRuns, if_pos rfl]
      exact induction sorted.of_cons
  | case4 first second rest differ induction =>
      rw [dedupRuns, if_neg differ]
      obtain ⟨below, later⟩ := List.pairwise_cons.mp sorted
      have strict : key first < key second :=
        lt_of_le_of_ne (below second (by simp))
          fun same => differ (injective same)
      refine List.pairwise_cons.mpr ⟨?_, induction later⟩
      intro other member
      rcases List.mem_cons.mp (mem_dedupRuns.mp member) with rfl | inRest
      · exact strict
      · exact strict.trans_le ((List.pairwise_cons.mp later).1 other inRest)

end

section

variable {α κ : Type} [LinearOrder κ] {key : α → κ}

theorem mem_allPairs {xs : List α} (increasing : Increasing key xs)
    (first second : α) :
    (first, second) ∈ allPairs xs ↔
      first ∈ xs ∧ second ∈ xs ∧ key first < key second := by
  induction xs with
  | nil => simp [allPairs]
  | cons head rest induction =>
      obtain ⟨below, later⟩ := List.pairwise_cons.mp increasing
      simp only [allPairs, List.mem_append, List.mem_map, Prod.mk.injEq,
        List.mem_cons, induction later]
      constructor
      · rintro (⟨other, member, rfl, rfl⟩ | ⟨inRest, otherInRest, ordered⟩)
        · exact ⟨Or.inl rfl, Or.inr member, below other member⟩
        · exact ⟨Or.inr inRest, Or.inr otherInRest, ordered⟩
      · rintro ⟨rfl | inRest, rfl | otherInRest, ordered⟩
        · exact absurd ordered (lt_irrefl _)
        · exact Or.inl ⟨second, otherInRest, rfl, rfl⟩
        · exact absurd (below first inRest) ordered.asymm
        · exact Or.inr ⟨inRest, otherInRest, ordered⟩

theorem increasing_allPairs {xs : List α} (increasing : Increasing key xs) :
    Increasing (fun pair : α × α => toLex (key pair.1, key pair.2))
      (allPairs xs) := by
  induction xs with
  | nil => exact List.Pairwise.nil
  | cons head rest induction =>
      obtain ⟨below, later⟩ := List.pairwise_cons.mp increasing
      refine List.pairwise_append.mpr ⟨?_, induction later, ?_⟩
      · refine List.pairwise_map.mpr (later.imp ?_)
        intro first second ordered
        exact Prod.Lex.toLex_lt_toLex.mpr (Or.inr ⟨rfl, ordered⟩)
      · intro first member second other
        obtain ⟨partner, _, rfl⟩ := List.mem_map.mp member
        have inRest := ((mem_allPairs later _ _).mp other).1
        exact Prod.Lex.toLex_lt_toLex.mpr (Or.inl (below second.1 inRest))

end

end StellarConduit.Data
