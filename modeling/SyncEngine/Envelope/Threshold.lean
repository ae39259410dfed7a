import SyncEngine.Envelope.Multisig

namespace StellarConduit

open Data

/-! The arithmetic of the threshold. The weights are those the registry holds
when they are summed, whatever it held when the signatures were added. -/

/-- `Iterator::sum` in a build that checks for overflow; `none` is the panic
there. -/
def sumChecked (weights : List UInt32) : Option UInt32 :=
  weights.foldlM (fun total weight =>
    if total.toNat + weight.toNat < 2 ^ 32 then some (total + weight)
    else none) 0

theorem sumChecked_from (weights : List UInt32) (total : UInt32) :
    weights.foldlM (fun total weight =>
        if total.toNat + weight.toNat < 2 ^ 32 then some (total + weight)
        else none) total =
      if total.toNat + (weights.map UInt32.toNat).sum < 2 ^ 32 then
        some (UInt32.ofNat (total.toNat + (weights.map UInt32.toNat).sum))
      else none := by
  induction weights generalizing total with
  | nil =>
      have bound := total.toNat_lt
      simp [bound]
  | cons weight weights induction =>
      simp only [List.foldlM_cons, List.map_cons, List.sum_cons]
      by_cases fits : total.toNat + weight.toNat < 2 ^ 32
      · have added : (total + weight).toNat =
            total.toNat + weight.toNat := by
          rw [UInt32.toNat_add, Nat.mod_eq_of_lt fits]
        rw [if_pos fits, Option.bind_eq_bind, Option.bind_some, induction,
          added, Nat.add_assoc]
      · rw [if_neg fits, if_neg (by omega)]
        rfl

/-- A partial sum overflows only where the whole sum does. -/
theorem sumChecked_eq (weights : List UInt32) :
    sumChecked weights =
      if (weights.map UInt32.toNat).sum < 2 ^ 32 then
        some (UInt32.ofNat (weights.map UInt32.toNat).sum)
      else none := by
  rw [sumChecked, sumChecked_from]
  simp

namespace MultisigAccountRegistry

/-- What a key contributes; one that is not cached contributes nothing. -/
def weightOf (registry : MultisigAccountRegistry) (account : String)
    (pubkey : Bytes32) : Nat :=
  ((registry.signerWeight account pubkey).map UInt32.toNat).getD 0

def exactWeight (registry : MultisigAccountRegistry) (account : String)
    (signers : Finset Bytes32) : Nat :=
  ∑ pubkey ∈ signers, registry.weightOf account pubkey

end MultisigAccountRegistry

namespace PartiallySignedEnvelope

variable {crates : Crates} {sha256 : Bytes → Bytes32}
  {sign : SigningKey → Bytes32 → Vector UInt8 64}
  {pending : PartiallySignedEnvelope} {log : List (Bytes32 × Bytes32)}

/-- The keys that a signature was added of. -/
def signers (log : List (Bytes32 × Bytes32)) : Finset Bytes32 :=
  (log.map Prod.fst).toFinset

theorem lastSigned_isSome (log : List (Bytes32 × Bytes32))
    (pubkey : Bytes32) :
    (lastSigned log pubkey).isSome = true ↔ pubkey ∈ signers log := by
  induction log using List.reverseRecOn with
  | nil => simp [lastSigned, signers]
  | append_singleton log entry induction =>
      obtain ⟨signer, payload⟩ := entry
      rw [lastSigned_snoc]
      by_cases same : pubkey = signer
      · simp [signers, same]
      · rw [if_neg same, induction]
        simp [signers, same]

/-- The contributions are keyed by the distinct signers. -/
theorem Signed.keys_eq (tracked : pending.Signed crates sign log) :
    pending.contributions.keys = signers log := by
  ext pubkey
  rw [← lastSigned_isSome]
  have related := tracked pubkey
  cases held : pending.contributions.lookup pubkey with
  | none =>
      rw [held] at related
      cases last : lastSigned log pubkey with
      | none => simpa [Finmap.mem_keys] using Finmap.lookup_eq_none.mp held
      | some payload =>
          rw [last] at related
          cases related
  | some signature =>
      rw [held] at related
      cases last : lastSigned log pubkey with
      | none =>
          rw [last] at related
          cases related
      | some payload =>
          simpa [Finmap.mem_keys] using Finmap.mem_of_lookup_eq_some held

theorem sum_filterMap_signerWeight (registry : MultisigAccountRegistry)
    (account : String) (keys : Multiset Bytes32) :
    (keys.filterMap fun pubkey =>
        (registry.signerWeight account pubkey).map UInt32.toNat).sum =
      (keys.map (registry.weightOf account)).sum := by
  induction keys using Multiset.induction_on with
  | empty => rfl
  | cons pubkey keys induction =>
      cases cached : registry.signerWeight account pubkey with
      | none =>
          simp [cached, induction, MultisigAccountRegistry.weightOf]
      | some weight =>
          simp [cached, induction, MultisigAccountRegistry.weightOf]

theorem Signed.accumulatedWeight_eq (tracked : pending.Signed crates sign log)
    (registry : MultisigAccountRegistry) :
    pending.accumulatedWeight registry =
      UInt32.ofNat
        (registry.exactWeight pending.sourceAccount (signers log)) := by
  rw [accumulatedWeight, sum_filterMap_signerWeight, tracked.keys_eq]
  rfl

theorem Signed.sumChecked_eq (tracked : pending.Signed crates sign log)
    (registry : MultisigAccountRegistry) {order : List Bytes32}
    (iterated : (order : Multiset Bytes32) = pending.contributions.keys.val) :
    sumChecked (order.filterMap
        (registry.signerWeight pending.sourceAccount)) =
      if registry.exactWeight pending.sourceAccount (signers log) < 2 ^ 32
      then some (pending.accumulatedWeight registry) else none := by
  have total : ((order.filterMap
      (registry.signerWeight pending.sourceAccount)).map UInt32.toNat).sum =
        registry.exactWeight pending.sourceAccount (signers log) := by
    have listed := sum_filterMap_signerWeight registry
      pending.sourceAccount (order : Multiset Bytes32)
    rw [List.map_filterMap]
    rw [iterated, tracked.keys_eq] at listed
    rw [MultisigAccountRegistry.exactWeight, Finset.sum, ← listed,
      ← tracked.keys_eq, ← iterated]
    rfl
  rw [StellarConduit.sumChecked_eq, total, tracked.accumulatedWeight_eq]

/-- Promotion is the threshold on the exact weight of the signers, which the
code sums without overflow in whatever order the keys are iterated. -/
structure WeighsExactly (crates : Crates) (pending : PartiallySignedEnvelope)
    (registry : MultisigAccountRegistry) (weight : Nat) : Prop where
  promotes : ∀ meshSigningKey policy ttlHops stamp,
    (∃ promoted, pending.tryPromote crates registry meshSigningKey policy
        ttlHops stamp = .ok promoted) ↔
      ∃ required, registry.threshold pending.sourceAccount = some required ∧
        required.toNat ≤ weight
  accumulated : (pending.accumulatedWeight registry).toNat = weight
  checked : ∀ order : List Bytes32,
    (order : Multiset Bytes32) = pending.contributions.keys.val →
    sumChecked (order.filterMap
        (registry.signerWeight pending.sourceAccount)) =
      some (pending.accumulatedWeight registry)

theorem meetsThreshold_eq_true {registry : MultisigAccountRegistry} :
    pending.meetsThreshold registry = true ↔
      ∃ required, registry.threshold pending.sourceAccount = some required ∧
        required.toNat ≤ (pending.accumulatedWeight registry).toNat := by
  rw [meetsThreshold, Option.any_eq_true]
  simp only [decide_eq_true_eq, ge_iff_le, UInt32.le_iff_toNat_le]

/-- The weights are exact as long as their sum fits its type. -/
theorem weighsExactly_iff (crates : Crates) (sha256 : Bytes → Bytes32)
    (sign : SigningKey → Bytes32 → Vector UInt8 64) (sourceAccount : String)
    (sequence : Int64) (txXdr : String) (calls : List MultisigCall)
    (registry : MultisigAccountRegistry) :
    let start := new sourceAccount sequence txXdr
    let pending := Machine.run (perform crates sha256 sign) start calls
    let log := Machine.collect (perform crates sha256 sign)
      (signed crates sha256 sign) start calls
    let weight := registry.exactWeight pending.sourceAccount (signers log)
    pending.WeighsExactly crates registry weight ↔ weight < 2 ^ 32 := by
  intro start pending log weight
  have tracked : pending.Signed crates sign log :=
    signed_run crates sha256 sign sourceAccount sequence txXdr calls
  constructor
  · intro exact
    rw [← exact.accumulated]
    exact (pending.accumulatedWeight registry).toNat_lt
  · intro fits
    have accumulated :
        (pending.accumulatedWeight registry).toNat = weight := by
      rw [tracked.accumulatedWeight_eq, UInt32.toNat_ofNat_of_lt' fits]
    refine ⟨?_, accumulated, ?_⟩
    · intro meshSigningKey policy ttlHops stamp
      rw [tryPromote_isOk_iff, meetsThreshold_eq_true, accumulated]
    · intro order iterated
      rw [tracked.sumChecked_eq registry iterated, if_pos fits]

/-! Two signers of half the range each, for a threshold of one. -/

def otherKey : SigningKey := ⟨Vector.replicate 32 8⟩

def heavyRegistry : MultisigAccountRegistry :=
  MultisigAccountRegistry.new.seed "GABC"
    [(sampleKey.secret, 0x80000000), (otherKey.secret, 0x80000000)] 1

/-- Both signers together weigh nothing, so that nothing is promoted. -/
theorem heavy_signers_not_promoted :
    let calls : List MultisigCall :=
      [.addSignature heavyRegistry sampleKey,
        .addSignature heavyRegistry otherKey]
    let start := new "GABC" 5 "AAAA"
    let pending := Machine.run (perform sampleCrates sampleSum sampleSign)
      start calls
    let log := Machine.collect (perform sampleCrates sampleSum sampleSign)
      (signed sampleCrates sampleSum sampleSign) start calls
    heavyRegistry.threshold "GABC" = some 1 ∧
      1 ≤ heavyRegistry.exactWeight "GABC" (signers log) ∧
      pending.accumulatedWeight heavyRegistry = 0 ∧
      ¬ ∃ promoted, pending.tryPromote sampleCrates heavyRegistry sampleKey
        .classicalOnly 10 sampleStamp = .ok promoted := by
  intro calls start pending log
  refine ⟨by decide +kernel, by decide +kernel, by decide +kernel, ?_⟩
  rw [tryPromote_isOk_iff]
  decide +kernel

end PartiallySignedEnvelope

end StellarConduit
