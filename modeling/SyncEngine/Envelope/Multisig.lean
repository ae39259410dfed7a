import SyncEngine.Data.Machine
import SyncEngine.Envelope.Builder
import SyncEngine.Settlement.TransparencyLog

namespace StellarConduit

open Data

structure AccountSigners where
  signers : HashMap Bytes32 UInt32
  threshold : UInt32

structure MultisigAccountRegistry where
  accounts : HashMap String AccountSigners

namespace MultisigAccountRegistry

def new : MultisigAccountRegistry := ⟨∅⟩

def seed (registry : MultisigAccountRegistry) (account : String)
    (signers : List (Bytes32 × UInt32)) (threshold : UInt32) :
    MultisigAccountRegistry where
  accounts := registry.accounts.insert account {
    signers := signers.foldl (fun map (pubkey, weight) =>
      map.insert pubkey weight) ∅
    threshold }

def signerWeight (registry : MultisigAccountRegistry) (account : String)
    (pubkey : Bytes32) : Option UInt32 := do
  let cached ← registry.accounts.lookup account
  cached.signers.lookup pubkey

def threshold (registry : MultisigAccountRegistry) (account : String) :
    Option UInt32 :=
  (registry.accounts.lookup account).map AccountSigners.threshold

def isKnownSigner (registry : MultisigAccountRegistry) (account : String)
    (pubkey : Bytes32) : Bool :=
  (registry.signerWeight account pubkey).isSome

end MultisigAccountRegistry

/-- What `multisig_payload_hash` feeds to the hash. -/
def multisigPayload (sourceAccount : String) (sequence : Int64)
    (txXdr : String) : Bytes :=
  sourceAccount.toUTF8.toList ++ toLeBytes sequence.toUInt64 ++
    txXdr.toUTF8.toList

def multisigPayloadHash (sha256 : Bytes → Bytes32) (sourceAccount : String)
    (sequence : Int64) (txXdr : String) : Bytes32 :=
  sha256 (multisigPayload sourceAccount sequence txXdr)

structure PartiallySignedEnvelope where
  sourceAccount : String
  sequence : Int64
  txXdr : String
  contributions : HashMap Bytes32 (Vector UInt8 64)

namespace PartiallySignedEnvelope

def new (sourceAccount : String) (sequence : Int64) (txXdr : String) :
    PartiallySignedEnvelope :=
  ⟨sourceAccount, sequence, txXdr, ∅⟩

def contributorCount (pending : PartiallySignedEnvelope) : Nat :=
  HashMap.len pending.contributions

/-- The sum wraps around, as in a release build, so that no order of the keys
matters. -/
def accumulatedWeight (pending : PartiallySignedEnvelope)
    (registry : MultisigAccountRegistry) : UInt32 :=
  UInt32.ofNat ((pending.contributions.keys.val.filterMap fun pubkey =>
    (registry.signerWeight pending.sourceAccount pubkey).map
      UInt32.toNat).sum)

def meetsThreshold (pending : PartiallySignedEnvelope)
    (registry : MultisigAccountRegistry) : Bool :=
  (registry.threshold pending.sourceAccount).any fun required =>
    pending.accumulatedWeight registry ≥ required

def payloadHash (sha256 : Bytes → Bytes32)
    (pending : PartiallySignedEnvelope) : Bytes32 :=
  multisigPayloadHash sha256 pending.sourceAccount pending.sequence
    pending.txXdr

section

variable (crates : Crates) (sha256 : Bytes → Bytes32)
  (sign : SigningKey → Bytes32 → Vector UInt8 64)

def addSignature (pending : PartiallySignedEnvelope)
    (registry : MultisigAccountRegistry) (signingKey : SigningKey) :
    Except SyncEngineError Unit × PartiallySignedEnvelope :=
  let pubkey := crates.verifyingKey signingKey
  if ¬ registry.isKnownSigner pending.sourceAccount pubkey then
    (.error (.unknownMultisigSigner pending.sourceAccount), pending)
  else
    let signature := sign signingKey (pending.payloadHash sha256)
    (.ok (), { pending with
      contributions := pending.contributions.insert pubkey signature })

def tryPromote (pending : PartiallySignedEnvelope)
    (registry : MultisigAccountRegistry) (meshSigningKey : SigningKey)
    (policy : SigningPolicy) (ttlHops : UInt8) (stamp : EnvelopeStamp) :
    Except SyncEngineError HybridSignedEnvelope :=
  if ¬ pending.meetsThreshold registry then
    .error (.multisigThresholdNotMet pending.sourceAccount
      (pending.accumulatedWeight registry)
      ((registry.threshold pending.sourceAccount).getD 0))
  else
    .ok (OfflineEnvelopeBuilder.signHybrid crates policy
      (EnvelopeBuilder.build (crates.verifyingKey meshSigningKey)
        pending.txXdr ttlHops stamp))

end

end PartiallySignedEnvelope

/-! Histories of signatures and of writes to the public fields. -/

inductive MultisigCall
  | addSignature (registry : MultisigAccountRegistry)
      (signingKey : SigningKey)
  | setSourceAccount (sourceAccount : String)
  | setSequence (sequence : Int64)
  | setTxXdr (txXdr : String)

namespace PartiallySignedEnvelope

variable (crates : Crates) (sha256 : Bytes → Bytes32)
  (sign : SigningKey → Bytes32 → Vector UInt8 64)

def perform (pending : PartiallySignedEnvelope) :
    MultisigCall → PartiallySignedEnvelope
  | .addSignature registry signingKey =>
      (pending.addSignature crates sha256 sign registry signingKey).2
  | .setSourceAccount sourceAccount => { pending with sourceAccount }
  | .setSequence sequence => { pending with sequence }
  | .setTxXdr txXdr => { pending with txXdr }

/-- The key that a call adds a signature of, with the payload hash it
signs. -/
def signed (pending : PartiallySignedEnvelope) :
    MultisigCall → Option (Bytes32 × Bytes32)
  | .addSignature registry signingKey =>
      match (pending.addSignature crates sha256 sign registry signingKey).1 with
      | .ok () =>
          some (crates.verifyingKey signingKey, pending.payloadHash sha256)
      | .error _ => none
  | _ => none

/-- The payload hash that a key signed last. -/
def lastSigned (log : List (Bytes32 × Bytes32)) (pubkey : Bytes32) :
    Option Bytes32 :=
  log.reverse.lookup pubkey

/-- Every contribution is a signature over what its key signed last. -/
def Signed (pending : PartiallySignedEnvelope)
    (log : List (Bytes32 × Bytes32)) : Prop :=
  ∀ pubkey, Option.Rel (fun signature payload =>
      ∃ signingKey, crates.verifyingKey signingKey = pubkey ∧
        signature = sign signingKey payload)
    (pending.contributions.lookup pubkey) (lastSigned log pubkey)

variable {crates} {sha256} {sign} {pending : PartiallySignedEnvelope}
  {log : List (Bytes32 × Bytes32)}

theorem lastSigned_snoc (log : List (Bytes32 × Bytes32))
    (signer payload pubkey : Bytes32) :
    lastSigned (log ++ [(signer, payload)]) pubkey =
      if pubkey = signer then some payload else lastSigned log pubkey := by
  rw [lastSigned, List.reverse_concat, List.lookup_cons, lastSigned]
  by_cases same : pubkey = signer
  · rw [if_pos same, beq_iff_eq.mpr same]
  · rw [if_neg same, beq_eq_false_iff_ne.mpr same]

theorem addSignature_known {registry : MultisigAccountRegistry}
    {signingKey : SigningKey}
    (known : registry.isKnownSigner pending.sourceAccount
      (crates.verifyingKey signingKey) = true) :
    pending.addSignature crates sha256 sign registry signingKey =
      (.ok (), { pending with
        contributions := pending.contributions.insert
          (crates.verifyingKey signingKey)
          (sign signingKey (pending.payloadHash sha256)) }) :=
  if_neg (not_not.mpr known)

theorem addSignature_unknown {registry : MultisigAccountRegistry}
    {signingKey : SigningKey}
    (unknown : ¬ registry.isKnownSigner pending.sourceAccount
      (crates.verifyingKey signingKey) = true) :
    pending.addSignature crates sha256 sign registry signingKey =
      (.error (.unknownMultisigSigner pending.sourceAccount), pending) :=
  if_pos unknown

theorem Signed.perform (tracked : pending.Signed crates sign log)
    (call : MultisigCall) :
    (pending.perform crates sha256 sign call).Signed crates sign
      (log ++ (pending.signed crates sha256 sign call).toList) := by
  cases call with
  | addSignature registry signingKey =>
      by_cases known : registry.isKnownSigner pending.sourceAccount
          (crates.verifyingKey signingKey) = true
      · simp only [PartiallySignedEnvelope.perform, signed,
          addSignature_known known, Option.toList_some]
        intro pubkey
        rw [HashMap.lookup_insert_ite, lastSigned_snoc]
        by_cases same : pubkey = crates.verifyingKey signingKey
        · rw [if_pos same, if_pos same]
          exact Option.Rel.some ⟨signingKey, same.symm, rfl⟩
        · rw [if_neg same, if_neg same]
          exact tracked pubkey
      · simp only [PartiallySignedEnvelope.perform, signed,
          addSignature_unknown known, Option.toList_none, List.append_nil]
        exact tracked
  | _ =>
      simp only [signed, Option.toList_none, List.append_nil]
      exact tracked

theorem signed_run (crates : Crates) (sha256 : Bytes → Bytes32)
    (sign : SigningKey → Bytes32 → Vector UInt8 64) (sourceAccount : String)
    (sequence : Int64) (txXdr : String) (calls : List MultisigCall) :
    let start := new sourceAccount sequence txXdr
    (Machine.run (perform crates sha256 sign) start calls).Signed crates sign
      (Machine.collect (perform crates sha256 sign)
        (signed crates sha256 sign) start calls) := by
  intro start
  induction calls using List.reverseRecOn with
  | nil =>
      intro pubkey
      exact Option.Rel.none
  | append_singleton calls call induction =>
      rw [Machine.run_snoc, Machine.collect_snoc]
      exact induction.perform call

/-- Every contribution counted towards the threshold is a signature under its
key over what would be promoted. -/
def Authorised (crates : Crates) (sha256 : Bytes → Bytes32)
    (sign : SigningKey → Bytes32 → Vector UInt8 64)
    (pending : PartiallySignedEnvelope)
    (registry : MultisigAccountRegistry) : Prop :=
  ∀ pubkey signature,
    pending.contributions.lookup pubkey = some signature →
    registry.isKnownSigner pending.sourceAccount pubkey = true →
    ∃ signingKey, crates.verifyingKey signingKey = pubkey ∧
      signature = sign signingKey (pending.payloadHash sha256)

theorem Signed.authorised_iff (tracked : pending.Signed crates sign log)
    (signInjective : ∀ first second message other,
      sign first message = sign second other →
        first = second ∧ message = other)
    (registry : MultisigAccountRegistry) :
    pending.Authorised crates sha256 sign registry ↔
      ∀ pubkey payload,
        registry.isKnownSigner pending.sourceAccount pubkey = true →
        lastSigned log pubkey = some payload →
        payload = pending.payloadHash sha256 := by
  constructor
  · intro authorised pubkey payload known last
    have related := tracked pubkey
    rw [last] at related
    cases held : pending.contributions.lookup pubkey with
    | none =>
        rw [held] at related
        cases related
    | some signature =>
        rw [held] at related
        obtain ⟨signer, -, signature_eq⟩ := Option.rel_some_some.mp related
        obtain ⟨signingKey, -, same⟩ :=
          authorised pubkey signature held known
        rw [signature_eq] at same
        exact (signInjective _ _ _ _ same).2
  · intro current pubkey signature held known
    have related := tracked pubkey
    rw [held] at related
    cases last : lastSigned log pubkey with
    | none =>
        rw [last] at related
        cases related
    | some payload =>
        rw [last] at related
        obtain ⟨signingKey, verifies, signature_eq⟩ :=
          Option.rel_some_some.mp related
        refine ⟨signingKey, verifies, ?_⟩
        rw [signature_eq, current pubkey payload known last]

theorem tryPromote_isOk_iff (pending : PartiallySignedEnvelope)
    (registry : MultisigAccountRegistry) (meshSigningKey : SigningKey)
    (policy : SigningPolicy) (ttlHops : UInt8) (stamp : EnvelopeStamp) :
    (∃ promoted, pending.tryPromote crates registry meshSigningKey policy
        ttlHops stamp = .ok promoted) ↔
      pending.meetsThreshold registry = true := by
  unfold tryPromote
  by_cases met : pending.meetsThreshold registry = true
  · simp [met]
  · simp [met]

/-- A promotion is covered by the counted contributions exactly when every
counted signer last signed the payload that is promoted. -/
theorem promoted_authorised_iff {crates : Crates}
    {sha256 : Bytes → Bytes32}
    {sign : SigningKey → Bytes32 → Vector UInt8 64}
    (signInjective : ∀ first second message other,
      sign first message = sign second other →
        first = second ∧ message = other)
    (sourceAccount : String) (sequence : Int64) (txXdr : String)
    (calls : List MultisigCall) (registry : MultisigAccountRegistry)
    (meshSigningKey : SigningKey) (policy : SigningPolicy) (ttlHops : UInt8)
    (stamp : EnvelopeStamp) :
    let start := new sourceAccount sequence txXdr
    let pending := Machine.run (perform crates sha256 sign) start calls
    let log := Machine.collect (perform crates sha256 sign)
      (signed crates sha256 sign) start calls
    ((∃ promoted, pending.tryPromote crates registry meshSigningKey policy
          ttlHops stamp = .ok promoted) →
        pending.Authorised crates sha256 sign registry) ↔
      (pending.meetsThreshold registry = true →
        ∀ pubkey payload,
          registry.isKnownSigner pending.sourceAccount pubkey = true →
          lastSigned log pubkey = some payload →
          payload = pending.payloadHash sha256) := by
  intro start pending log
  have tracked :=
    signed_run crates sha256 sign sourceAccount sequence txXdr calls
  rw [tryPromote_isOk_iff, tracked.authorised_iff signInjective]

/-! One signer of an account with a threshold of one, and signatures that
show their key and message. -/

def sampleCrates : Crates where
  fromXdrBase64 _ := .error "Invalid"
  strkey _ := ""
  verifyingKey := SigningKey.secret
  detachedSign _ _ := []
  rmpSerde := {
    toVec := fun _ => .error .serializationError
    fromSlice := fun _ => .error .deserializationError
    fromSlice_toVec := by
      intro value bytes encoded
      cases encoded }

def sampleSum (bytes : Bytes) : Bytes32 :=
  Vector.replicate 32 (bytes.foldl (· + ·) 0)

def sampleSign (signingKey : SigningKey) (message : Bytes32) :
    Vector UInt8 64 :=
  signingKey.secret ++ message

theorem sampleSign_injective (first second : SigningKey)
    (message other : Bytes32)
    (same : sampleSign first message = sampleSign second other) :
    first = second ∧ message = other := by
  have lists := congrArg Vector.toList same
  rw [sampleSign, sampleSign, Vector.toList_append, Vector.toList_append]
    at lists
  obtain ⟨secrets, messages⟩ := List.append_inj lists (by simp)
  refine ⟨?_, Vector.toList_inj.mp messages⟩
  cases first
  cases second
  exact congrArg SigningKey.mk (Vector.toList_inj.mp secrets)

def sampleKey : SigningKey := ⟨Vector.replicate 32 7⟩

def sampleRegistry : MultisigAccountRegistry :=
  MultisigAccountRegistry.new.seed "GABC" [(sampleKey.secret, 1)] 1

def sampleStamp : EnvelopeStamp :=
  ⟨Vector.replicate 32 1, 1000, Vector.replicate 64 2⟩

/-- A signature over one transaction promotes another that is written after
it. -/
theorem rewritten_after_signing_promotes :
    let pending := Machine.run (perform sampleCrates sampleSum sampleSign)
      (new "GABC" 5 "AAAA")
      [.addSignature sampleRegistry sampleKey, .setTxXdr "BBBB"]
    (∃ promoted, pending.tryPromote sampleCrates sampleRegistry sampleKey
        .classicalOnly 10 sampleStamp = .ok promoted ∧
      promoted.classicalEnvelope.txXdr = "BBBB") ∧
      ¬ pending.Authorised sampleCrates sampleSum sampleSign
        sampleRegistry := by
  intro pending
  refine ⟨⟨_, if_neg ?_, rfl⟩, ?_⟩
  · decide +kernel
  · intro authorised
    have tracked := signed_run sampleCrates sampleSum sampleSign
      "GABC" 5 "AAAA"
      [.addSignature sampleRegistry sampleKey, .setTxXdr "BBBB"]
    have current := (tracked.authorised_iff sampleSign_injective
      sampleRegistry).mp authorised sampleKey.secret
      (multisigPayloadHash sampleSum "GABC" 5 "AAAA") (by decide +kernel)
      (by decide +kernel)
    exact absurd current (by decide +kernel)

theorem promoted_authorised_unwritten :
    let pending := Machine.run (perform sampleCrates sampleSum sampleSign)
      (new "GABC" 5 "AAAA") [.addSignature sampleRegistry sampleKey]
    pending.meetsThreshold sampleRegistry = true ∧
      pending.Authorised sampleCrates sampleSum sampleSign
        sampleRegistry := by
  intro pending
  have met : pending.meetsThreshold sampleRegistry = true := by
    decide +kernel
  refine ⟨met, ?_⟩
  apply (promoted_authorised_iff sampleSign_injective "GABC" 5 "AAAA"
    [.addSignature sampleRegistry sampleKey] sampleRegistry sampleKey
    .classicalOnly 10 sampleStamp).mpr
  · intro _ pubkey payload _ last
    have log : Machine.collect (perform sampleCrates sampleSum sampleSign)
        (signed sampleCrates sampleSum sampleSign) (new "GABC" 5 "AAAA")
        [.addSignature sampleRegistry sampleKey] =
          [] ++ [(sampleKey.secret,
            multisigPayloadHash sampleSum "GABC" 5 "AAAA")] := by
      decide +kernel
    rw [log, lastSigned_snoc] at last
    split_ifs at last
    · exact (Option.some.inj last).symm
    · cases last
  · exact (tryPromote_isOk_iff pending sampleRegistry sampleKey
      .classicalOnly 10 sampleStamp).mpr met

end PartiallySignedEnvelope

end StellarConduit
