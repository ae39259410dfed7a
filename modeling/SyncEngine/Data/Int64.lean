import Mathlib.Algebra.Order.Ring.Int
import Mathlib.Algebra.Order.Ring.Nat
import Mathlib.Data.List.Sort
import Mathlib.Order.Basic

namespace StellarConduit.Data

/-! Signed machine integers away from their bounds, and their inclusive
ranges. -/

theorem toInt_add_one {value : Int64} (below : value ≠ Int64.maxValue) :
    (value + 1).toInt = value.toInt + 1 := by
  have upper : value.toInt ≠ 2 ^ 63 - 1 := by
    intro same
    exact below (Int64.toInt_inj.mp same)
  have range := value.toInt_lt
  have lower := value.le_toInt
  have one : (1 : Int64).toInt = 1 := rfl
  rw [Int64.toInt_add, one]
  exact Int.bmod_eq_of_le (by omega) (by omega)

theorem lt_add_one {value : Int64} (below : value ≠ Int64.maxValue) :
    value < value + 1 := by
  rw [Int64.lt_iff_toInt_lt, toInt_add_one below]
  omega

theorem le_add_one_iff {value other : Int64}
    (below : value ≠ Int64.maxValue) :
    other ≤ value + 1 ↔ other ≤ value ∨ other = value + 1 := by
  rw [Int64.le_iff_toInt_le, Int64.le_iff_toInt_le, ← Int64.toInt_inj,
    toInt_add_one below]
  omega

theorem toInt_sub_one {value bound : Int64} (above : bound < value) :
    (value - 1).toInt = value.toInt - 1 := by
  have range := value.toInt_lt
  have lower := bound.le_toInt
  have one : (1 : Int64).toInt = 1 := rfl
  rw [Int64.lt_iff_toInt_lt] at above
  rw [Int64.toInt_sub, one]
  exact Int.bmod_eq_of_le (by omega) (by omega)

theorem le_sub_one_of_lt {value bound : Int64} (above : bound < value) :
    bound ≤ value - 1 := by
  rw [Int64.le_iff_toInt_le, toInt_sub_one above]
  rw [Int64.lt_iff_toInt_lt] at above
  omega

theorem lt_of_le_sub_one {value bound other : Int64} (above : bound < value)
    (within : other ≤ value - 1) : other < value := by
  rw [Int64.le_iff_toInt_le, toInt_sub_one above] at within
  rw [Int64.lt_iff_toInt_lt]
  omega

theorem sub_one_ne_max {value bound : Int64} (above : bound < value) :
    value - 1 ≠ Int64.maxValue := by
  intro full
  have top := value.toInt_le
  rw [← full, toInt_sub_one above] at top
  omega

theorem mem_range_add_one {low high value : Int64} (above : low < high) :
    value ∈ ((low + 1)...=high).toList ↔ low < value ∧ value ≤ high := by
  rw [Std.Rcc.mem_toList_iff_mem]
  have below : low ≠ Int64.maxValue := by
    rintro rfl
    have top := high.toInt_le
    rw [Int64.lt_iff_toInt_lt] at above
    omega
  change low + 1 ≤ value ∧ value ≤ high ↔ _
  rw [Int64.le_iff_toInt_le, toInt_add_one below, Int64.lt_iff_toInt_lt]
  rfl

theorem range_self (value : Int64) : (value...=value).toList = [value] := by
  have members (other : Int64) :
      other ∈ (value...=value).toList ↔ other = value := by
    rw [Std.Rcc.mem_toList_iff_mem]
    exact ⟨fun bounds => Int64.le_antisymm bounds.2 bounds.1,
      fun same => same ▸ ⟨Int64.le_refl _, Int64.le_refl _⟩⟩
  apply List.perm_singleton.mp
  rw [List.perm_ext_iff_of_nodup Std.Rcc.nodup_toList (List.nodup_singleton _)]
  simpa using members

/-- The numbers above `low` and up to both bounds. -/
theorem mem_range_min {low first second value : Int64} :
    value ∈ (if low < min first second then
        ((low + 1)...=min first second).toList else []) ↔
      low < value ∧ value ≤ first ∧ value ≤ second := by
  split
  · rename_i above
    rw [mem_range_add_one above, Std.le_min_iff]
  · rename_i below
    constructor
    · intro member
      simp at member
    · intro bounds
      obtain ⟨above, bounded⟩ := bounds
      exact absurd (Int64.lt_of_lt_of_le above (Std.le_min_iff.mpr bounded))
        below

theorem pairwise_range_min (low first second : Int64) :
    (if low < min first second then
        ((low + 1)...=min first second).toList else []).Pairwise (· < ·) := by
  split
  · exact Std.Rcc.pairwise_toList_lt
  · exact List.Pairwise.nil

instance int64LawfulOrderMax : Std.LawfulOrderMax Int64 := .of_max_le_iff
  (by
    intro first second bound
    change (if first ≤ second then second else first) ≤ bound ↔ _
    split
    · rename_i ordered
      exact ⟨fun below => ⟨Int64.le_trans ordered below, below⟩, And.right⟩
    · rename_i unordered
      have reversed := Int64.le_of_lt (Int64.not_le.mp unordered)
      exact ⟨fun below => ⟨below, Int64.le_trans reversed below⟩, And.left⟩)
  (by
    intro first second
    change (if first ≤ second then second else first) = first ∨
      (if first ≤ second then second else first) = second
    split
    · exact .inr rfl
    · exact .inl rfl)

/-! Words read as signed numbers. -/

theorem toInt_toInt64 (value : UInt64) :
    value.toInt64.toInt =
      if value.toNat < 2 ^ 63 then (value.toNat : Int)
      else (value.toNat : Int) - 2 ^ 64 := by
  have read : value.toInt64.toInt = value.toBitVec.toInt := rfl
  rw [read, BitVec.toInt_eq_toNat_cond, UInt64.toNat_toBitVec]
  by_cases low : value.toNat < 2 ^ 63
  · rw [if_pos low, if_pos (by omega)]
  · rw [if_neg low, if_neg (by omega)]
    rfl

/-- Within one half of the range the signed order is that of the words. -/
theorem toInt64_lt_of_same_half {value bound : UInt64}
    (same : value.toNat < 2 ^ 63 ↔ bound.toNat < 2 ^ 63) :
    value.toInt64 < bound.toInt64 ↔ value < bound := by
  rw [Int64.lt_iff_toInt_lt, toInt_toInt64, toInt_toInt64,
    UInt64.lt_iff_toNat_lt]
  by_cases low : bound.toNat < 2 ^ 63
  · rw [if_pos (same.mpr low), if_pos low]
    omega
  · rw [if_neg (mt same.mp low), if_neg low]
    omega

/-- Across the halves it is the reverse. -/
theorem toInt64_lt_of_other_half {value bound : UInt64}
    (differ : ¬ (value.toNat < 2 ^ 63 ↔ bound.toNat < 2 ^ 63)) :
    value.toInt64 < bound.toInt64 ↔ ¬ value < bound := by
  rw [Int64.lt_iff_toInt_lt, toInt_toInt64, toInt_toInt64,
    UInt64.lt_iff_toNat_lt]
  have range := value.toNat_lt
  have range' := bound.toNat_lt
  by_cases low : bound.toNat < 2 ^ 63
  · rw [if_neg (fun also => differ ⟨fun _ => low, fun _ => also⟩), if_pos low]
    omega
  · have other : value.toNat < 2 ^ 63 := by omega
    rw [if_pos other, if_neg low]
    omega

theorem toInt64_inj {value other : UInt64} :
    value.toInt64 = other.toInt64 ↔ value = other := by
  constructor
  · intro same
    simpa using congrArg Int64.toUInt64 same
  · intro same
    rw [same]

theorem map_toUInt64_eq_some {time : Option Int64} {shown : UInt64} :
    time.map Int64.toUInt64 = some shown ↔ time = some shown.toInt64 := by
  constructor
  · intro same
    obtain ⟨value, rfl, rfl⟩ := Option.map_eq_some_iff.mp same
    simp
  · rintro rfl
    simp

end StellarConduit.Data
