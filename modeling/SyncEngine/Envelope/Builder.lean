import SyncEngine.Envelope.Xdr
import SyncEngine.Queue.Sequence

namespace StellarConduit

namespace OfflineEnvelopeBuilder

def signHybrid (crates : Crates) (policy : SigningPolicy)
    (classicalEnvelope : TransactionEnvelope) : HybridSignedEnvelope :=
  let hybrid : HybridSignedEnvelope := ⟨classicalEnvelope, none, none⟩
  match policy with
  | .classicalOnly => hybrid
  | .hybrid publicKey secretKey => { hybrid with
      pqSignature :=
        some (crates.detachedSign hybrid.canonicalPayload secretKey)
      pqPublicKey := some publicKey }

/-- The manager is returned beside the result, because a failed call may have
touched it. -/
def buildAndSign (crates : Crates) (sequences : SequenceReservationManager)
    (sourceAccount : String) (signingKey : SigningKey)
    (policy : SigningPolicy) (txXdr : String) (ttlHops : UInt8)
    (stamp : EnvelopeStamp) :
    Except SyncEngineError (HybridSignedEnvelope × Int64) ×
      SequenceReservationManager :=
  match crates.extractSourceAccountAndSequence txXdr with
  | .error error => (.error error, sequences)
  | .ok (xdrAccount, xdrSequence) =>
      if sourceAccount ≠ xdrAccount then
        (.error (.sourceAccountMismatch sourceAccount xdrAccount), sequences)
      else
        match sequences.reserveNext xdrAccount with
        | .error error => (.error error, sequences)
        | .ok (reserved, taken) =>
            if reserved ≠ xdrSequence then
              (.error (.sequenceMismatch xdrAccount reserved xdrSequence),
                taken.releaseIgnored xdrAccount reserved)
            else
              let classicalEnvelope := EnvelopeBuilder.build
                (crates.verifyingKey signingKey) txXdr ttlHops stamp
              (.ok (signHybrid crates policy classicalEnvelope, xdrSequence),
                taken)

@[simp] theorem signHybrid_classicalEnvelope (crates : Crates)
    (policy : SigningPolicy) (classicalEnvelope : TransactionEnvelope) :
    (signHybrid crates policy classicalEnvelope).classicalEnvelope =
      classicalEnvelope := by
  cases policy <;> rfl

section

variable {crates : Crates} {sequences : SequenceReservationManager}
  {sourceAccount : String} {signingKey : SigningKey}
  {policy : SigningPolicy} {txXdr : String} {ttlHops : UInt8}
  {stamp : EnvelopeStamp}

theorem buildAndSign_error {error : SyncEngineError}
    {after : SequenceReservationManager}
    (failed : buildAndSign crates sequences sourceAccount signingKey policy
      txXdr ttlHops stamp = (.error error, after)) : after = sequences := by
  unfold buildAndSign at failed
  split at failed
  · simp_all
  · split at failed
    · simp_all
    · split at failed
      · simp_all
      · rename_i taken reservation
        split at failed
        · simp only [Prod.mk.injEq] at failed
          rw [← failed.2]
          exact SequenceReservationManager.releaseIgnored_reserveNext
            reservation
        · simp at failed

theorem buildAndSign_ok {hybrid : HybridSignedEnvelope} {sequence : Int64}
    {after : SequenceReservationManager}
    (built : buildAndSign crates sequences sourceAccount signingKey policy
      txXdr ttlHops stamp = (.ok (hybrid, sequence), after)) :
    crates.extractSourceAccountAndSequence txXdr =
        .ok (sourceAccount, sequence) ∧
      sequences.reserveNext sourceAccount = .ok (sequence, after) ∧
      hybrid.classicalEnvelope = EnvelopeBuilder.build
        (crates.verifyingKey signingKey) txXdr ttlHops stamp := by
  unfold buildAndSign at built
  split at built
  · simp at built
  · rename_i xdrAccount xdrSequence extracted
    split at built
    · simp at built
    · rename_i sameAccount
      obtain rfl : sourceAccount = xdrAccount := not_not.mp sameAccount
      split at built
      · simp at built
      · rename_i reserved taken reservation
        split at built
        · simp at built
        · rename_i sameSequence
          obtain rfl : reserved = xdrSequence := not_not.mp sameSequence
          simp only [Prod.mk.injEq, Except.ok.injEq] at built
          obtain ⟨⟨rfl, rfl⟩, rfl⟩ := built
          exact ⟨extracted, reservation, signHybrid_classicalEnvelope ..⟩

theorem buildAndSign_of_reserved {sequence : Int64}
    {after : SequenceReservationManager}
    (extracted : crates.extractSourceAccountAndSequence txXdr =
      .ok (sourceAccount, sequence))
    (reserved : sequences.reserveNext sourceAccount = .ok (sequence, after)) :
    buildAndSign crates sequences sourceAccount signingKey policy txXdr ttlHops
        stamp =
      (.ok (signHybrid crates policy (EnvelopeBuilder.build
          (crates.verifyingKey signingKey) txXdr ttlHops stamp), sequence),
        after) := by
  simp [buildAndSign, extracted, reserved]

end

/-- All that `build_and_sign` takes from the manager is the last number
reserved for the claimed account. It rejects the transaction for good, or signs
it under the next number. -/
theorem buildAndSign_of_lastReserved (crates : Crates) (account : String)
    (last : Int64) (signingKey : SigningKey) (policy : SigningPolicy)
    (txXdr : String) (ttlHops : UInt8) :
    (∃ error : SyncEngineError, error.classify = .permanent ∧
      ∀ (manager : SequenceReservationManager) (stamp : EnvelopeStamp),
        manager.lastReserved account = some last →
        buildAndSign crates manager account signingKey policy txXdr ttlHops
          stamp = (.error error, manager)) ∨
    ∀ (manager : SequenceReservationManager) (stamp : EnvelopeStamp),
      manager.lastReserved account = some last →
      buildAndSign crates manager account signingKey policy txXdr ttlHops
          stamp =
        (.ok (signHybrid crates policy (EnvelopeBuilder.build
            (crates.verifyingKey signingKey) txXdr ttlHops stamp), last + 1),
          { manager with
            reserved := manager.reserved.insert account (last + 1) }) := by
  cases parsed : crates.fromXdrBase64 txXdr with
  | error reason =>
      refine .inl ⟨.xdrParse reason, rfl, fun manager stamp _ => ?_⟩
      simp [buildAndSign, Crates.extractSourceAccountAndSequence, parsed]
  | ok envelope =>
      obtain ⟨⟨xdrAccount, xdrSequence⟩, extracted⟩ : ∃ pair,
          crates.extractSourceAccountAndSequence txXdr = .ok pair := by
        rw [Crates.extractSourceAccountAndSequence, parsed]
        cases envelope <;> exact ⟨_, rfl⟩
      by_cases sameAccount : account = xdrAccount
      · subst sameAccount
        by_cases sameSequence : last + 1 = xdrSequence
        · subst sameSequence
          exact .inr fun manager stamp held =>
            buildAndSign_of_reserved extracted
              (SequenceReservationManager.reserveNext_of_reserved held)
        · refine .inl ⟨.sequenceMismatch account (last + 1) xdrSequence, rfl,
            fun manager stamp held => ?_⟩
          have reserved :=
            SequenceReservationManager.reserveNext_of_reserved held
          have rolledBack :=
            SequenceReservationManager.releaseIgnored_reserveNext reserved
          simp [buildAndSign, extracted, reserved, sameSequence, rolledBack]
      · refine .inl ⟨.sourceAccountMismatch account xdrAccount, rfl,
          fun manager stamp _ => ?_⟩
        simp [buildAndSign, extracted, sameAccount]

end OfflineEnvelopeBuilder

end StellarConduit
