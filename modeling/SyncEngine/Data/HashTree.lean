import Mathlib.Data.List.Basic
import Mathlib.Tactic.Ring
import Mathlib.Algebra.Order.Ring.Nat

namespace StellarConduit.Data

/-! Unpadded binary hash trees. A level is turned into the next one by hashing
neighbours in pairs; a node left without a neighbour is promoted as it is. The
root of such a tree is also the root of the tree that splits its leaves at the
largest power of two below their number. -/

namespace HashTree

variable {δ : Type} (node : δ → δ → δ)

def pairUp : List δ → List δ
  | first :: second :: rest => node first second :: pairUp rest
  | [last] => [last]
  | [] => []

@[simp] theorem pairUp_nil : pairUp node [] = [] := rfl

@[simp] theorem pairUp_singleton (last : δ) : pairUp node [last] = [last] := rfl

@[simp] theorem pairUp_cons_cons (first second : δ) (rest : List δ) :
    pairUp node (first :: second :: rest) =
      node first second :: pairUp node rest := rfl

@[simp] theorem length_pairUp (level : List δ) :
    (pairUp node level).length = (level.length + 1) / 2 := by
  induction level using pairUp.induct with
  | case1 first second rest induction =>
      simp only [pairUp_cons_cons, List.length_cons, induction]
      omega
  | case2 last => simp
  | case3 => simp

theorem pairUp_append (left right : List δ) (even : left.length % 2 = 0) :
    pairUp node (left ++ right) = pairUp node left ++ pairUp node right := by
  induction left using pairUp.induct with
  | case1 first second rest induction =>
      simp only [List.length_cons] at even
      simp only [List.cons_append, pairUp_cons_cons]
      rw [induction (by omega)]
  | case2 last => simp at even
  | case3 => rfl

theorem pairUp_getElem? (level : List δ) (index : Nat) :
    (pairUp node level)[index / 2]? =
      match level[index / 2 * 2]?, level[index / 2 * 2 + 1]? with
      | some left, some right => some (node left right)
      | some left, none => some left
      | none, _ => none := by
  induction level using pairUp.induct generalizing index with
  | case1 first second rest induction =>
      match index with
      | 0 => rfl
      | 1 => rfl
      | index + 2 =>
          have halved : (index + 2) / 2 = index / 2 + 1 := by omega
          have position : (index / 2 + 1) * 2 = index / 2 * 2 + 1 + 1 := by
            omega
          rw [halved, position]
          simp only [pairUp_cons_cons, List.getElem?_cons_succ]
          exact induction index
  | case2 last =>
      match index with
      | 0 => rfl
      | 1 => rfl
      | index + 2 =>
          have halved : (index + 2) / 2 = index / 2 + 1 := by omega
          have position : (index / 2 + 1) * 2 = index / 2 * 2 + 1 + 1 := by
            omega
          rw [halved, position]
          simp
  | case3 => simp

/-- Root of the tree over `leaves`, level by level. An empty tree has the
sentinel `empty` for its root. -/
def levelRoot (empty : δ) (leaves : List δ) : δ :=
  match leaves with
  | [] => empty
  | [only] => only
  | first :: second :: rest =>
      levelRoot empty (pairUp node (first :: second :: rest))
termination_by leaves.length
decreasing_by
  simp only [length_pairUp, List.length_cons]
  omega

variable (empty : δ)

@[simp] theorem levelRoot_singleton (only : δ) :
    levelRoot node empty [only] = only := by
  simp [levelRoot]

theorem levelRoot_pairUp (leaves : List δ) :
    levelRoot node empty (pairUp node leaves) =
      levelRoot node empty leaves := by
  match leaves with
  | [] => rfl
  | [only] => rfl
  | first :: second :: rest =>
      conv_rhs => rw [levelRoot]

theorem levelRoot_append (k : Nat) (left right : List δ)
    (full : left.length = 2 ^ k) (nonempty : 0 < right.length)
    (fits : right.length ≤ 2 ^ k) :
    levelRoot node empty (left ++ right) =
      node (levelRoot node empty left) (levelRoot node empty right) := by
  induction k generalizing left right with
  | zero =>
      obtain ⟨first, rfl⟩ := List.length_eq_one_iff.mp full
      have one : right.length = 1 := by
        simp only [pow_zero] at fits
        omega
      obtain ⟨second, rfl⟩ := List.length_eq_one_iff.mp one
      simp [levelRoot]
  | succ k induction =>
      have double : 2 ^ (k + 1) = 2 * 2 ^ k := by ring
      have even : left.length % 2 = 0 := by omega
      rw [← levelRoot_pairUp node empty (left ++ right),
        pairUp_append node left right even,
        induction (pairUp node left) (pairUp node right)
          (by rw [length_pairUp]; omega) (by rw [length_pairUp]; omega)
          (by rw [length_pairUp]; omega),
        levelRoot_pairUp, levelRoot_pairUp]

/-! The way from a leaf to the root. A level of more than one node pairs every
node with its neighbour, except that the last node of an odd level has none. -/

/-- Number of nodes on `level` of a tree over `width` leaves. -/
def levelWidth (width level : Nat) : Nat :=
  (width + 2 ^ level - 1) / 2 ^ level

/-- No node on the way from leaf `index` to the root is an unpaired last node
of its level. -/
def PairedToRoot (width index : Nat) : Prop :=
  ∀ level, 1 < levelWidth width level → index / 2 ^ level % 2 = 0 →
    index / 2 ^ level + 1 < levelWidth width level

theorem levelWidth_zero (width : Nat) : levelWidth width 0 = width := by
  simp [levelWidth]

theorem levelWidth_succ (width level : Nat) :
    levelWidth width (level + 1) = levelWidth ((width + 1) / 2) level := by
  have positive : 0 < 2 ^ level := Nat.two_pow_pos level
  have double : 2 ^ (level + 1) = 2 * 2 ^ level := by ring
  have halved :
      (width + 2 * 2 ^ level - 1) / 2 = (width + 1) / 2 + 2 ^ level - 1 := by
    omega
  rw [levelWidth, levelWidth, double, ← Nat.div_div_eq_div_mul, halved]

theorem levelWidth_le_one {width : Nat} (small : width ≤ 1) (level : Nat) :
    levelWidth width level ≤ 1 := by
  have positive : 0 < 2 ^ level := Nat.two_pow_pos level
  refine Nat.div_le_of_le_mul ?_
  omega

theorem pairedToRoot_of_le_one {width : Nat} (small : width ≤ 1)
    (index : Nat) : PairedToRoot width index := by
  intro level wide
  have narrow := levelWidth_le_one small level
  omega

theorem pairedToRoot_step {width : Nat} (wide : 1 < width) (index : Nat) :
    PairedToRoot width index ↔
      (index % 2 = 0 → index + 1 < width) ∧
        PairedToRoot ((width + 1) / 2) (index / 2) := by
  have deeper (level : Nat) :
      index / 2 ^ (level + 1) = index / 2 / 2 ^ level := by
    rw [pow_succ', Nat.div_div_eq_div_mul]
  constructor
  · intro paired
    refine ⟨?_, fun level => ?_⟩
    · simpa [levelWidth_zero, wide] using paired 0
    · simpa only [levelWidth_succ, deeper] using paired (level + 1)
  · rintro ⟨first, rest⟩ level
    cases level with
    | zero => simpa [levelWidth_zero, wide] using first
    | succ level =>
        simpa only [levelWidth_succ, deeper] using rest level

end HashTree

end StellarConduit.Data
