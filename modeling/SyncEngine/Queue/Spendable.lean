import SyncEngine.Data.Saturation
import SyncEngine.Storage.Db

namespace StellarConduit

open Data

structure QueuedEnvelopeSpend where
  record : QueuedEnvelopeRecord
  amount : Int64
  status : SettlementStatus
  deriving DecidableEq

/-- Whether the filter of the estimate keeps a spend. -/
def QueuedEnvelopeSpend.reserves (account : String)
    (spend : QueuedEnvelopeSpend) : Bool :=
  spend.record.sourceAccount == account &&
    (spend.status matches .queued | .propagating | .disputed) &&
    decide (0 ≤ spend.amount)

def estimateSpendable (account : String) (knownBalance : Int64)
    (queued : List QueuedEnvelopeSpend) : Int64 :=
  let kept := queued.filter (QueuedEnvelopeSpend.reserves account)
  let reserved := kept.foldl
    (fun total spend => Signed.saturatingAdd total spend.amount) 0
  Signed.saturatingSub knownBalance reserved

/-- What is reserved, as an exact sum. -/
def exactReserved (account : String) (queued : List QueuedEnvelopeSpend) :
    Int :=
  ((queued.filter (QueuedEnvelopeSpend.reserves account)).map fun spend =>
    spend.amount.toInt).sum

theorem nonneg_of_reserves {account : String} {spend : QueuedEnvelopeSpend}
    (reserves : spend.reserves account = true) : 0 ≤ spend.amount.toInt := by
  simp only [QueuedEnvelopeSpend.reserves, Bool.and_eq_true,
    decide_eq_true_eq] at reserves
  exact Int64.le_iff_toInt_le.mp reserves.2

theorem exactReserved_nonneg (account : String)
    (queued : List QueuedEnvelopeSpend) :
    0 ≤ exactReserved account queued := by
  apply List.sum_nonneg
  intro value member
  obtain ⟨spend, kept, rfl⟩ := List.mem_map.mp member
  exact nonneg_of_reserves (List.mem_filter.mp kept).2

theorem exactReserved_of_perm (account : String)
    {first second : List QueuedEnvelopeSpend} (perm : first.Perm second) :
    exactReserved account first = exactReserved account second :=
  ((perm.filter _).map _).sum_eq

/-- An added entry reserves no less. -/
theorem exactReserved_le_cons (account : String) (spend : QueuedEnvelopeSpend)
    (queued : List QueuedEnvelopeSpend) :
    exactReserved account queued ≤ exactReserved account (spend :: queued) := by
  unfold exactReserved
  cases reserves : spend.reserves account with
  | false =>
      rw [List.filter_cons_of_neg (by simp [reserves])]
  | true =>
      rw [List.filter_cons_of_pos reserves, List.map_cons, List.sum_cons]
      have added := nonneg_of_reserves reserves
      omega

theorem toInt_reserved (account : String)
    (queued : List QueuedEnvelopeSpend) :
    ((queued.filter (QueuedEnvelopeSpend.reserves account)).foldl
        (fun total spend => Signed.saturatingAdd total spend.amount)
        0).toInt =
      min (2 ^ 63 - 1) (exactReserved account queued) := by
  have nonneg : ∀ amount ∈
      (queued.filter (QueuedEnvelopeSpend.reserves account)).map
        QueuedEnvelopeSpend.amount, 0 ≤ amount := by
    intro amount member
    obtain ⟨spend, kept, rfl⟩ := List.mem_map.mp member
    exact Int64.le_iff_toInt_le.mpr
      (nonneg_of_reserves (List.mem_filter.mp kept).2)
  have capped := Signed.toInt_foldl_saturatingAdd _ nonneg
    (Int64.le_refl 0)
  have zero : (0 : Int64).toInt = 0 := rfl
  rw [List.foldl_map, List.map_map, zero, zero_add] at capped
  exact capped

/-- The saturating sum and difference are those of the exact sum. -/
theorem toInt_estimateSpendable (account : String) (knownBalance : Int64)
    (queued : List QueuedEnvelopeSpend) :
    (estimateSpendable account knownBalance queued).toInt =
      max (-2 ^ 63) (knownBalance.toInt -
        min (2 ^ 63 - 1) (exactReserved account queued)) := by
  have total := exactReserved_nonneg account queued
  have most := knownBalance.toInt_lt
  simp only [estimateSpendable, Signed.saturatingSub, toInt_saturate,
    toInt_reserved]
  omega

/-- Nothing but the empty spend, out of the greatest balance there is, is
estimated to be within a balance that does not cover what is reserved. -/
theorem estimateSpendable_safe (account : String) (knownBalance : Int64)
    (queued : List QueuedEnvelopeSpend) :
    let reserved := exactReserved account queued
    let estimate := estimateSpendable account knownBalance queued
    (∀ amount : Int, 0 ≤ amount → amount ≤ estimate.toInt →
      ¬ (amount = 0 ∧ knownBalance = Int64.maxValue ∧
        Int64.maxValue.toInt < reserved) →
      reserved + amount ≤ knownBalance.toInt) ∧
    (∀ other : List QueuedEnvelopeSpend, other.Perm queued →
      estimateSpendable account knownBalance other = estimate) ∧
    (∀ before after added, queued = before ++ after →
      estimateSpendable account knownBalance (before ++ added :: after) ≤
        estimate) ∧
    (reserved ≤ Int64.maxValue.toInt →
      Int64.minValue.toInt ≤ knownBalance.toInt - reserved →
      knownBalance.toInt - reserved ≤ Int64.maxValue.toInt →
      estimate.toInt = knownBalance.toInt - reserved) := by
  intro reserved estimate
  have estimated : estimate.toInt = max (-2 ^ 63) (knownBalance.toInt -
      min (2 ^ 63 - 1) reserved) :=
    toInt_estimateSpendable account knownBalance queued
  have bottom : Int64.minValue.toInt = -2 ^ 63 := rfl
  have top : Int64.maxValue.toInt = 2 ^ 63 - 1 := rfl
  refine ⟨?_, ?_, ?_, ?_⟩
  · intro amount nonneg within ordinary
    by_contra exceeds
    apply ordinary
    rw [← Int64.toInt_inj, top]
    have most := knownBalance.toInt_lt
    omega
  · intro other perm
    rw [← Int64.toInt_inj, estimated, toInt_estimateSpendable,
      exactReserved_of_perm account perm]
  · rintro before after added rfl
    have grows : reserved ≤
        exactReserved account (before ++ added :: after) := by
      rw [exactReserved_of_perm account List.perm_middle]
      exact exactReserved_le_cons account added (before ++ after)
    rw [Int64.le_iff_toInt_le, estimated, toInt_estimateSpendable]
    omega
  · intro fits above below
    rw [estimated]
    omega

section Samples

def sampleSpend (amount : Int64) : QueuedEnvelopeSpend where
  record := ⟨⟨Vector.replicate 32 1, Vector.replicate 32 0, "", 0, 0,
    Vector.replicate 64 0⟩, "G-account", 1, .normal, 0⟩
  amount
  status := .queued

/-- The reserved sum is capped at the balance, so that nothing seems to be
missing. -/
theorem estimateSpendable_capped :
    let queued := [sampleSpend Int64.maxValue, sampleSpend 1]
    0 ≤ (estimateSpendable "G-account" Int64.maxValue queued).toInt ∧
      ¬ exactReserved "G-account" queued + 0 ≤ Int64.maxValue.toInt := by
  decide +kernel

end Samples

end StellarConduit
