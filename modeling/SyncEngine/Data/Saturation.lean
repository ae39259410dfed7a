import Mathlib.Algebra.Order.BigOperators.Group.List
import SyncEngine.Data.Int64

namespace StellarConduit.Data

/-! Sums that stop at a cap, and the saturating operations on signed words. -/

section

variable {α : Type} [AddCommMonoid α] [LinearOrder α] [IsOrderedAddMonoid α]

/-- Capping every partial sum of a list is capping its sum. -/
theorem foldl_min_add (cap : α) (xs : List α) (nonneg : ∀ x ∈ xs, 0 ≤ x)
    {total : α} (within : total ≤ cap) :
    xs.foldl (fun sum x => min cap (sum + x)) total =
      min cap (total + xs.sum) := by
  induction xs generalizing total with
  | nil =>
      rw [List.foldl_nil, List.sum_nil, add_zero, min_eq_right within]
  | cons x xs induction =>
      have rest : 0 ≤ xs.sum := List.sum_nonneg fun y member =>
        nonneg y (List.mem_cons_of_mem x member)
      rw [List.foldl_cons, induction (fun y member =>
        nonneg y (List.mem_cons_of_mem x member)) (min_le_left _ _),
        List.sum_cons, ← add_assoc]
      rcases le_total cap (total + x) with full | room
      · rw [min_eq_left full, min_eq_left (le_add_of_nonneg_right rest),
          min_eq_left (full.trans (le_add_of_nonneg_right rest))]
      · rw [min_eq_right room]

end

/-- The nearest signed word. -/
def saturate (value : Int) : Int64 :=
  if value < -2 ^ 63 then Int64.minValue
  else if 2 ^ 63 ≤ value then Int64.maxValue
  else Int64.ofInt value

theorem toInt_saturate (value : Int) :
    (saturate value).toInt = max (-2 ^ 63) (min (2 ^ 63 - 1) value) := by
  unfold saturate
  have bottom : Int64.minValue.toInt = -2 ^ 63 := rfl
  have top : Int64.maxValue.toInt = 2 ^ 63 - 1 := rfl
  split
  · rw [bottom]
    omega
  · split
    · rw [top]
      omega
    · rw [Int64.toInt_ofInt_of_le (by omega) (by omega)]
      omega

namespace Signed

def saturatingAdd (first second : Int64) : Int64 :=
  saturate (first.toInt + second.toInt)

def saturatingSub (first second : Int64) : Int64 :=
  saturate (first.toInt - second.toInt)

theorem toInt_saturatingAdd {first second : Int64} (firstNonneg : 0 ≤ first)
    (secondNonneg : 0 ≤ second) :
    (saturatingAdd first second).toInt =
      min (2 ^ 63 - 1) (first.toInt + second.toInt) := by
  have zero : (0 : Int64).toInt = 0 := rfl
  rw [Int64.le_iff_toInt_le, zero] at firstNonneg secondNonneg
  rw [saturatingAdd, toInt_saturate]
  omega

theorem saturatingAdd_nonneg {first second : Int64} (firstNonneg : 0 ≤ first)
    (secondNonneg : 0 ≤ second) : 0 ≤ saturatingAdd first second := by
  rw [Int64.le_iff_toInt_le, toInt_saturatingAdd firstNonneg secondNonneg]
  have zero : (0 : Int64).toInt = 0 := rfl
  rw [Int64.le_iff_toInt_le, zero] at firstNonneg secondNonneg
  rw [zero]
  omega

/-- A saturating sum of words that are not negative. -/
theorem toInt_foldl_saturatingAdd (amounts : List Int64)
    (nonneg : ∀ amount ∈ amounts, 0 ≤ amount) {total : Int64}
    (started : 0 ≤ total) :
    (amounts.foldl saturatingAdd total).toInt =
      min (2 ^ 63 - 1) (total.toInt + (amounts.map Int64.toInt).sum) := by
  have capped : (amounts.foldl saturatingAdd total).toInt =
      (amounts.map Int64.toInt).foldl
        (fun sum amount => min (2 ^ 63 - 1) (sum + amount)) total.toInt := by
    induction amounts generalizing total with
    | nil => rfl
    | cons amount amounts induction =>
        have first : 0 ≤ amount := nonneg amount List.mem_cons_self
        rw [List.foldl_cons, List.map_cons, List.foldl_cons,
          ← toInt_saturatingAdd started first]
        exact induction
          (fun other member => nonneg other (List.mem_cons_of_mem _ member))
          (saturatingAdd_nonneg started first)
  have bound := total.toInt_lt
  rw [capped, foldl_min_add _ _ _ (by omega)]
  intro value member
  obtain ⟨amount, listed, rfl⟩ := List.mem_map.mp member
  exact Int64.le_iff_toInt_le.mp (nonneg amount listed)

end Signed

end StellarConduit.Data
