import SyncEngine.Data.ByteLayout
import SyncEngine.Envelope.Builder
import SyncEngine.Envelope.Multisig
import SyncEngine.Envelope.Resequence
import SyncEngine.Queue.Reservations

namespace StellarConduit

open Data

/-! The post-quantum signature that a receiver checks. -/

/-- `pqcrypto_dilithium`: keys and signatures from their bytes, and
`verify_detached_signature(signature, payload, public_key)`. -/
structure PqCrate (PublicKey DetachedSignature : Type) where
  publicKeyFromBytes : Bytes → Option PublicKey
  signatureFromBytes : Bytes → Option DetachedSignature
  verifyDetachedSignature : DetachedSignature → Bytes → PublicKey → Bool

section

variable {PublicKey DetachedSignature : Type}
  (pq : PqCrate PublicKey DetachedSignature)

/-- Whether a signature of `payload` verifies, all given as bytes. -/
def PqCrate.verifies (pkBytes sigBytes payload : Bytes) : Bool :=
  match pq.publicKeyFromBytes pkBytes, pq.signatureFromBytes sigBytes with
  | some publicKey, some signature =>
      pq.verifyDetachedSignature signature payload publicKey
  | _, _ => false

def HybridSignedEnvelope.verifyPq (envelope : HybridSignedEnvelope) :
    Except SyncEngineError Unit :=
  match envelope.pqSignature, envelope.pqPublicKey with
  | some sigBytes, some pkBytes =>
      match pq.publicKeyFromBytes pkBytes with
      | none => .error .pqVerificationFailed
      | some publicKey =>
          match pq.signatureFromBytes sigBytes with
          | none => .error .pqVerificationFailed
          | some signature =>
              if pq.verifyDetachedSignature signature
                  envelope.canonicalPayload publicKey then
                .ok ()
              else
                .error .pqVerificationFailed
  | _, _ => .ok ()

/-- The envelope is signed under the key, and passes. -/
structure HybridSignedEnvelope.Accepted (pkBytes : Bytes)
    (envelope : HybridSignedEnvelope) : Prop where
  signed : envelope.pqSignature ≠ none
  key : envelope.pqPublicKey = some pkBytes
  passes : envelope.verifyPq pq = .ok ()

end

namespace HybridSignedEnvelope

variable {PublicKey DetachedSignature : Type}
  {pq : PqCrate PublicKey DetachedSignature}
  {first second : HybridSignedEnvelope}

theorem verifyPq_ok_iff (envelope : HybridSignedEnvelope) :
    envelope.verifyPq pq = .ok () ↔
      ∀ sigBytes pkBytes, envelope.pqSignature = some sigBytes →
        envelope.pqPublicKey = some pkBytes →
        pq.verifies pkBytes sigBytes envelope.canonicalPayload = true := by
  unfold verifyPq PqCrate.verifies
  cases envelope.pqSignature with
  | none => simp
  | some sigBytes =>
      cases envelope.pqPublicKey with
      | none => simp
      | some pkBytes =>
          cases keyed : pq.publicKeyFromBytes pkBytes with
          | none => simp [keyed]
          | some publicKey =>
              cases decoded : pq.signatureFromBytes sigBytes with
              | none => simp [keyed, decoded]
              | some signature => simp [keyed, decoded]

/-- The key is 32 bytes, so that the payload says where the XDR begins. -/
theorem txXdr_of_canonicalPayload
    (same : first.canonicalPayload = second.canonicalPayload) :
    first.classicalEnvelope.originPubkey =
        second.classicalEnvelope.originPubkey ∧
      first.classicalEnvelope.txXdr = second.classicalEnvelope.txXdr := by
  unfold canonicalPayload at same
  have lengths : first.classicalEnvelope.originPubkey.toVec.length =
      second.classicalEnvelope.originPubkey.toVec.length := by
    simp [Bytes32.toVec]
  obtain ⟨keys, texts⟩ := List.append_inj same lengths
  exact ⟨Bytes32.toVec_injective keys, ByteLayout.utf8_injective texts⟩

end HybridSignedEnvelope

/-! Everything that one device signs. -/

/-- Calls on the manager, and the three that sign an envelope, with what they
answer. -/
inductive SigningCall
  | reservation (call : ReservationCall)
  | buildAndSign (sourceAccount : String) (signingKey : SigningKey)
      (txXdr : String) (ttlHops : UInt8) (stamp : EnvelopeStamp)
      (answer : Except SyncEngineError (HybridSignedEnvelope × Int64))
  | resequenceAndResign (oldEnvelope : TransactionEnvelope)
      (newSequence : Int64) (signingKey : SigningKey) (stamp : EnvelopeStamp)
      (answer : Except SyncEngineError HybridSignedEnvelope)
  | tryPromote (pending : PartiallySignedEnvelope)
      (registry : MultisigAccountRegistry) (meshSigningKey : SigningKey)
      (ttlHops : UInt8) (stamp : EnvelopeStamp)
      (answer : Except SyncEngineError HybridSignedEnvelope)

namespace SigningCall

/-- The envelope that a call signs. -/
def signed : SigningCall → Option HybridSignedEnvelope
  | .buildAndSign _ _ _ _ _ (.ok (hybrid, _)) => some hybrid
  | .resequenceAndResign _ _ _ _ (.ok hybrid) => some hybrid
  | .tryPromote _ _ _ _ _ (.ok hybrid) => some hybrid
  | _ => none

/-- What a call does to the manager. -/
def onManager : SigningCall → List ReservationCall
  | .reservation call => [call]
  | .buildAndSign sourceAccount _ _ _ _ (.ok (_, sequence)) =>
      [.reserveNext sourceAccount (.ok sequence)]
  | _ => []

/-- A call that signs without a reservation. -/
def Unreserved : SigningCall → Prop
  | .resequenceAndResign .. => True
  | .tryPromote .. => True
  | _ => False

end SigningCall

section

variable (crates : Crates)
  (toXdrBase64 : Xdr.TransactionEnvelope → Except String String)
  (policy : SigningPolicy)

def SequenceReservationManager.SigningStep
    (manager : SequenceReservationManager) :
    SigningCall → SequenceReservationManager → Prop
  | .reservation call, next => manager.Step call next
  | .buildAndSign sourceAccount signingKey txXdr ttlHops stamp answer, next =>
      OfflineEnvelopeBuilder.buildAndSign crates manager sourceAccount
        signingKey policy txXdr ttlHops stamp = (answer, next)
  | .resequenceAndResign oldEnvelope newSequence signingKey stamp answer,
      next =>
      OfflineEnvelopeBuilder.resequenceAndResign crates toXdrBase64
          oldEnvelope newSequence signingKey policy stamp = answer ∧
        next = manager
  | .tryPromote pending registry meshSigningKey ttlHops stamp answer, next =>
      pending.tryPromote crates registry meshSigningKey policy ttlHops
          stamp = answer ∧
        next = manager

/-- One device, with one manager and one policy. -/
def signer : System SequenceReservationManager SigningCall where
  init := freshManager
  step := SequenceReservationManager.SigningStep crates toXdrBase64 policy

end

/-- The manager is used as `Sound` says, and a build has a number left. -/
def SoundSigning (manager : SequenceReservationManager) : SigningCall → Prop
  | .reservation call => Sound manager call
  | .buildAndSign sourceAccount _ _ _ _ _ =>
      manager.lastReserved sourceAccount ≠ some Int64.maxValue
  | _ => True

namespace OfflineEnvelopeBuilder

variable {crates : Crates} {sequences after : SequenceReservationManager}
  {sourceAccount txXdr : String} {signingKey : SigningKey}
  {policy : SigningPolicy} {ttlHops : UInt8} {stamp : EnvelopeStamp}
  {hybrid : HybridSignedEnvelope} {sequence : Int64}

theorem buildAndSign_signed
    (built : buildAndSign crates sequences sourceAccount signingKey policy
      txXdr ttlHops stamp = (.ok (hybrid, sequence), after)) :
    hybrid = signHybrid crates policy (EnvelopeBuilder.build
      (crates.verifyingKey signingKey) txXdr ttlHops stamp) := by
  obtain ⟨extracted, reserved, -⟩ := buildAndSign_ok built
  rw [buildAndSign_of_reserved extracted reserved] at built
  obtain ⟨same, -⟩ := Prod.mk.inj (Except.ok.inj (Prod.mk.inj built).1)
  exact same.symm

end OfflineEnvelopeBuilder

/-! The numbers that stay taken. -/

theorem mem_held_append {account : String} {sequence : Int64}
    {calls more : List ReservationCall}
    (taken : sequence ∈ held account calls)
    (kept : .release account sequence (.ok ()) ∉ more) :
    sequence ∈ held account (calls ++ more) := by
  induction more using List.reverseRecOn with
  | nil => rwa [List.append_nil]
  | append_singleton more call induction =>
      have still := induction fun member =>
        kept (List.mem_append_left _ member)
      rw [← List.append_assoc, held_snoc]
      have other : call ≠ .release account sequence (.ok ()) :=
        fun same => kept (by simp [same])
      unfold ReservationCall.hold
      split
      · split
        · exact List.mem_append_left _ still
        · exact still
      · rename_i released number
        split
        · rename_i same
          refine List.mem_filter.mpr ⟨still, ?_⟩
          rw [decide_eq_true_iff]
          intro equal
          exact other (by rw [same, equal])
        · exact still
      · exact still

section

variable {crates : Crates}
  {toXdrBase64 : Xdr.TransactionEnvelope → Except String String}
  {policy : SigningPolicy} {trace : List SigningCall}
  {manager : SequenceReservationManager}

/-- A device that signs uses its manager in order. -/
theorem reservations_of_signing
    (run : (signer crates toXdrBase64 policy).RunUnder
      (fun _ state call => SoundSigning state call) trace manager) :
    (reservations freshManager).RunUnder
      (fun _ state call => Sound state call)
      (trace.flatMap SigningCall.onManager) manager := by
  have alongside : ∃ calls, (reservations freshManager).RunUnder
      (fun _ state call => Sound state call) calls manager ∧
      calls = trace.flatMap SigningCall.onManager := by
    refine run.projects id
      (fun trace calls => calls = trace.flatMap SigningCall.onManager) ?_ ?_
    · intro state start
      exact ⟨start, rfl⟩
    · intro trace state call next calls stepped sound alongside same
      have extended : (trace ++ [call]).flatMap SigningCall.onManager =
          calls ++ call.onManager := by
        rw [List.flatMap_append, List.flatMap_singleton, same]
      rw [extended]
      cases call with
      | reservation call => exact Or.inr ⟨call, stepped, sound, rfl⟩
      | buildAndSign sourceAccount signingKey txXdr ttlHops stamp answer =>
          cases answer with
          | error error =>
              exact Or.inl ⟨OfflineEnvelopeBuilder.buildAndSign_error stepped,
                (List.append_nil _).symm⟩
          | ok success =>
              exact Or.inr ⟨.reserveNext sourceAccount (.ok success.2),
                (OfflineEnvelopeBuilder.buildAndSign_ok stepped).2.1, sound,
                rfl⟩
      | resequenceAndResign oldEnvelope newSequence signingKey stamp answer =>
          exact Or.inl ⟨stepped.2, (List.append_nil _).symm⟩
      | tryPromote pending registry meshSigningKey ttlHops stamp answer =>
          exact Or.inl ⟨stepped.2, (List.append_nil _).symm⟩
  obtain ⟨calls, alongside, rfl⟩ := alongside
  exact alongside

/-- Between two builds at one number, that number was released. -/
theorem released_between
    (run : (signer crates toXdrBase64 policy).RunUnder
      (fun _ state call => SoundSigning state call) trace manager)
    {before middle after : List SigningCall} {first second : SigningCall}
    {account : String} {sequence : Int64}
    (split : trace = before ++ first :: middle ++ second :: after)
    (taken : first.onManager = [.reserveNext account (.ok sequence)])
    (again : second.onManager = [.reserveNext account (.ok sequence)]) :
    .release account sequence (.ok ()) ∈
      middle.flatMap SigningCall.onManager := by
  have whole := reservations_of_signing run
  rw [split, List.flatMap_append, List.flatMap_cons, again] at whole
  obtain ⟨state, next, prior, stepped, sound⟩ := whole.at_label rfl
  have new := (inOrder_of_run prior account).newNumber sound stepped
  rw [List.flatMap_append, List.flatMap_cons, taken,
    ← List.append_assoc] at new
  by_contra unreleased
  refine new.notHeld (mem_held_append ?_ unreleased)
  rw [held_snoc]
  simp [ReservationCall.hold]

end

/-! What a receiver can conclude. -/

section

variable {PublicKey DetachedSignature : Type}

/-- What is signed with the secret key verifies under the public one. -/
def PqCrate.Opens (pq : PqCrate PublicKey DetachedSignature) (crates : Crates)
    (publicKey secretKey : Bytes) : Prop :=
  ∀ payload, pq.verifies publicKey (crates.detachedSign payload secretKey)
    payload = true

/-- Nobody but the device has signed, under its key, a payload that the
receiver has got. -/
def PqCrate.Unforged (pq : PqCrate PublicKey DetachedSignature)
    (publicKey : Bytes) (trace : List SigningCall)
    (received : Set HybridSignedEnvelope) : Prop :=
  ∀ envelope ∈ received, ∀ signature,
    envelope.pqSignature = some signature →
    pq.verifies publicKey signature envelope.canonicalPayload = true →
    ∃ call ∈ trace, ∃ hybrid, call.signed = some hybrid ∧
      hybrid.canonicalPayload = envelope.canonicalPayload

variable {pq : PqCrate PublicKey DetachedSignature} {crates : Crates}
  {toXdrBase64 : Xdr.TransactionEnvelope → Except String String}
  {policy : SigningPolicy} {publicKey secretKey : Bytes}
  {trace : List SigningCall} {manager next : SequenceReservationManager}

theorem exists_signHybrid {call : SigningCall}
    {hybrid : HybridSignedEnvelope}
    (stepped : manager.SigningStep crates toXdrBase64 policy call next)
    (signed : call.signed = some hybrid) :
    ∃ classicalEnvelope, hybrid = OfflineEnvelopeBuilder.signHybrid crates
      policy classicalEnvelope := by
  cases call with
  | reservation call => cases signed
  | buildAndSign sourceAccount signingKey txXdr ttlHops stamp answer =>
      cases answer with
      | error error => cases signed
      | ok success =>
          obtain rfl := Option.some_inj.mp signed
          exact ⟨_, OfflineEnvelopeBuilder.buildAndSign_signed stepped⟩
  | resequenceAndResign oldEnvelope newSequence signingKey stamp answer =>
      obtain ⟨rewritten, -⟩ := stepped
      unfold OfflineEnvelopeBuilder.resequenceAndResign at rewritten
      split at rewritten
      · subst rewritten
        cases signed
      · subst rewritten
        exact ⟨_, (Option.some_inj.mp signed).symm⟩
  | tryPromote pending registry meshSigningKey ttlHops stamp answer =>
      obtain ⟨promoted, -⟩ := stepped
      unfold PartiallySignedEnvelope.tryPromote at promoted
      split at promoted
      · subst promoted
        cases signed
      · subst promoted
        exact ⟨_, (Option.some_inj.mp signed).symm⟩

theorem accepted_signHybrid (opens : pq.Opens crates publicKey secretKey)
    (classicalEnvelope : TransactionEnvelope) :
    (OfflineEnvelopeBuilder.signHybrid crates (.hybrid publicKey secretKey)
      classicalEnvelope).Accepted pq publicKey where
  signed := by simp [OfflineEnvelopeBuilder.signHybrid]
  key := rfl
  passes := by
    rw [HybridSignedEnvelope.verifyPq_ok_iff]
    intro sigBytes pkBytes sig pk
    obtain rfl := Option.some_inj.mp sig
    obtain rfl := Option.some_inj.mp pk
    exact opens _

/-- An accepted envelope carries a transaction that the device has signed. -/
theorem exists_signed_of_accepted {received : Set HybridSignedEnvelope}
    (unforged : pq.Unforged publicKey trace received)
    {envelope : HybridSignedEnvelope} (member : envelope ∈ received)
    (accepted : envelope.Accepted pq publicKey) :
    ∃ call ∈ trace, ∃ hybrid, call.signed = some hybrid ∧
      hybrid.classicalEnvelope.txXdr = envelope.classicalEnvelope.txXdr := by
  obtain ⟨signature, sig⟩ := Option.ne_none_iff_exists'.mp accepted.signed
  have verified := (envelope.verifyPq_ok_iff).mp accepted.passes signature
    publicKey sig accepted.key
  obtain ⟨call, listed, hybrid, signed, same⟩ :=
    unforged envelope member signature sig verified
  exact ⟨call, listed, hybrid, signed,
    (HybridSignedEnvelope.txXdr_of_canonicalPayload same).2⟩

/-- A call that signs without a leave of the manager, or takes the number that
its transaction names. -/
theorem unreserved_or_reserves
    (run : (signer crates toXdrBase64 policy).RunUnder
      (fun _ state call => SoundSigning state call) trace manager)
    {call : SigningCall} (listed : call ∈ trace)
    {hybrid : HybridSignedEnvelope} (signed : call.signed = some hybrid)
    {account : String} {sequence : Int64}
    (names : crates.extractSourceAccountAndSequence
      hybrid.classicalEnvelope.txXdr = .ok (account, sequence)) :
    call.Unreserved ∨
      call.onManager = [.reserveNext account (.ok sequence)] := by
  obtain ⟨before, after, split⟩ := List.append_of_mem listed
  obtain ⟨state, later, prior, stepped, sound⟩ := run.at_label split
  cases call with
  | reservation call => cases signed
  | resequenceAndResign => exact Or.inl trivial
  | tryPromote => exact Or.inl trivial
  | buildAndSign sourceAccount signingKey txXdr ttlHops stamp answer =>
      cases answer with
      | error error => cases signed
      | ok success =>
          obtain rfl := Option.some_inj.mp signed
          obtain ⟨extracted, -, classical⟩ :=
            OfflineEnvelopeBuilder.buildAndSign_ok stepped
          rw [classical] at names
          have same := Except.ok.inj (extracted.symm.trans names)
          obtain ⟨rfl, rfl⟩ := Prod.mk.inj same
          exact Or.inr rfl

theorem mem_of_onManager {calls : List SigningCall} {account : String}
    {sequence : Int64}
    (member : .release account sequence (.ok ()) ∈
      calls.flatMap SigningCall.onManager) :
    .reservation (.release account sequence (.ok ())) ∈ calls := by
  obtain ⟨call, listed, made⟩ := List.mem_flatMap.mp member
  unfold SigningCall.onManager at made
  split at made
  · rw [List.mem_singleton.mp made]
    exact listed
  · cases List.mem_singleton.mp made
  · cases made

/-- Two different transactions that a device has signed for one slot: it had
released the number, or signed one of the two without a reservation. -/
theorem equivocation_cases
    (run : (signer crates toXdrBase64 policy).RunUnder
      (fun _ state call => SoundSigning state call) trace manager)
    {first second : SigningCall} (listed : first ∈ trace)
    (listedToo : second ∈ trace) {one other : HybridSignedEnvelope}
    (signed : first.signed = some one) (signedToo : second.signed = some other)
    {account : String} {sequence : Int64}
    (names : crates.extractSourceAccountAndSequence
      one.classicalEnvelope.txXdr = .ok (account, sequence))
    (namesToo : crates.extractSourceAccountAndSequence
      other.classicalEnvelope.txXdr = .ok (account, sequence))
    (differ : one.classicalEnvelope.txXdr ≠ other.classicalEnvelope.txXdr) :
    .reservation (.release account sequence (.ok ())) ∈ trace ∨
      first.Unreserved ∨ second.Unreserved := by
  rcases unreserved_or_reserves run listed signed names with
    unreserved | taken
  · exact Or.inr (Or.inl unreserved)
  · rcases unreserved_or_reserves run listedToo signedToo namesToo with
      unreserved | again
    · exact Or.inr (Or.inr unreserved)
    · have apart : first ≠ second := by
        rintro rfl
        rw [signed] at signedToo
        exact differ (by rw [Option.some_inj.mp signedToo])
      left
      rcases exists_split_of_ne listed listedToo apart with
        ⟨before, middle, after, split⟩ | ⟨before, middle, after, split⟩
      · have between := mem_of_onManager
          (released_between run split taken again)
        rw [split]
        simp [between]
      · have between := mem_of_onManager
          (released_between run split again taken)
        rw [split]
        simp [between]

/-- In every history of a device that signs under a hybrid policy, a receiver
who has its post-quantum key accepts all that the device signs. Of two
transactions for one slot that the receiver accepts, the device has released
the slot's number or signed one of them without a reservation, unless they are
the same transaction. -/
theorem accepted_equivocation (opens : pq.Opens crates publicKey secretKey)
    (run : (signer crates toXdrBase64
      (.hybrid publicKey secretKey)).RunUnder
        (fun _ state call => SoundSigning state call) trace manager)
    {received : Set HybridSignedEnvelope}
    (unforged : pq.Unforged publicKey trace received) :
    (∀ call ∈ trace, ∀ hybrid, call.signed = some hybrid →
      hybrid.Accepted pq publicKey) ∧
    ∀ first ∈ received, ∀ second ∈ received,
      first.Accepted pq publicKey → second.Accepted pq publicKey →
      ∀ account sequence,
        crates.extractSourceAccountAndSequence
          first.classicalEnvelope.txXdr = .ok (account, sequence) →
        crates.extractSourceAccountAndSequence
          second.classicalEnvelope.txXdr = .ok (account, sequence) →
        first.classicalEnvelope.txXdr = second.classicalEnvelope.txXdr ∨
        .reservation (.release account sequence (.ok ())) ∈ trace ∨
        ∃ call ∈ trace, call.Unreserved ∧
          ∃ hybrid, call.signed = some hybrid ∧
            (hybrid.classicalEnvelope.txXdr =
                first.classicalEnvelope.txXdr ∨
              hybrid.classicalEnvelope.txXdr =
                second.classicalEnvelope.txXdr) := by
  refine ⟨?_, ?_⟩
  · intro call listed hybrid signed
    obtain ⟨before, after, split⟩ := List.append_of_mem listed
    obtain ⟨state, later, prior, stepped, sound⟩ := run.at_label split
    obtain ⟨classicalEnvelope, rfl⟩ := exists_signHybrid stepped signed
    exact accepted_signHybrid opens classicalEnvelope
  · intro first member second memberToo accepted acceptedToo account sequence
      names namesToo
    by_cases same : first.classicalEnvelope.txXdr =
        second.classicalEnvelope.txXdr
    · exact Or.inl same
    · right
      obtain ⟨call, listed, one, signed, carries⟩ :=
        exists_signed_of_accepted unforged member accepted
      obtain ⟨callToo, listedToo, other, signedToo, carriesToo⟩ :=
        exists_signed_of_accepted unforged memberToo acceptedToo
      rw [← carries] at names
      rw [← carriesToo] at namesToo
      rcases equivocation_cases run listed listedToo signed signedToo names
          namesToo (by rwa [carries, carriesToo]) with
        released | unreserved | unreserved
      · exact Or.inl released
      · exact Or.inr ⟨call, listed, unreserved, one, signed, Or.inl carries⟩
      · exact Or.inr ⟨callToo, listedToo, unreserved, other, signedToo,
          Or.inr carriesToo⟩

end

/-! A device that releases a number and signs another transaction for it. A
signature shows its payload and key. -/

namespace Equivocation

def crates : Crates :=
  { PartiallySignedEnvelope.sampleCrates with
    fromXdrBase64 := fun _ =>
      .ok (.tx ⟨⟨.ed25519 (Vector.replicate 32 0), 101, []⟩, []⟩)
    strkey := fun _ => "GABC"
    detachedSign := fun payload secretKey => payload ++ secretKey }

def pq : PqCrate Bytes Bytes where
  publicKeyFromBytes := some
  signatureFromBytes := some
  verifyDetachedSignature signature payload publicKey :=
    signature = payload ++ publicKey

def signingKey : SigningKey := ⟨Vector.replicate 32 7⟩

def stamp : EnvelopeStamp :=
  ⟨Vector.replicate 32 1, 1000, Vector.replicate 64 2⟩

def hybrid (txXdr : String) : HybridSignedEnvelope :=
  OfflineEnvelopeBuilder.signHybrid crates (.hybrid [9] [9])
    (EnvelopeBuilder.build (crates.verifyingKey signingKey) txXdr 10 stamp)

def build (txXdr : String) : SigningCall :=
  .buildAndSign "GABC" signingKey txXdr 10 stamp (.ok (hybrid txXdr, 101))

def trace : List SigningCall :=
  [.reservation (.seed "GABC" 100), build "AAAA",
    .reservation (.release "GABC" 101 (.ok ())), build "BBBB"]

/-- The manager once a number is reserved. -/
def reserved (sequence : Int64) : SequenceReservationManager :=
  let seeded := SequenceReservationManager.new.seed "GABC" 100
  { seeded with reserved := seeded.reserved.insert "GABC" sequence }

variable {toXdrBase64 : Xdr.TransactionEnvelope → Except String String}

theorem step_seed : (signer crates toXdrBase64 (.hybrid [9] [9])).step
    SequenceReservationManager.new (.reservation (.seed "GABC" 100))
    (reserved 100) := by
  refine ⟨rfl, ?_⟩
  simp [reserved, SequenceReservationManager.seed]

theorem step_build (txXdr : String) :
    (signer crates toXdrBase64 (.hybrid [9] [9])).step (reserved 100)
      (build txXdr) (reserved 101) := by
  have held : (reserved 100).lastReserved "GABC" = some 100 :=
    Finmap.lookup_insert _
  have taken := SequenceReservationManager.reserveNext_of_reserved held
  refine (OfflineEnvelopeBuilder.buildAndSign_of_reserved rfl taken).trans ?_
  simp [reserved, hybrid]

theorem step_release : (signer crates toXdrBase64 (.hybrid [9] [9])).step
    (reserved 101) (.reservation (.release "GABC" 101 (.ok ())))
    (reserved 100) := by
  show (reserved 101).release "GABC" 101 = .ok (reserved 100)
  simp [reserved, SequenceReservationManager.release]

theorem sound_release : SoundSigning (reserved 101)
    (.reservation (.release "GABC" 101 (.ok ()))) := by
  intro _ baseline based
  have found : (reserved 101).baselineOf "GABC" = some 100 :=
    Finmap.lookup_insert _
  obtain rfl := Option.some_inj.mp (found.symm.trans based)
  decide

theorem run : (signer crates toXdrBase64 (.hybrid [9] [9])).RunUnder
    (fun _ state call => SoundSigning state call) trace (reserved 101) := by
  have room : (reserved 100).lastReserved "GABC" ≠ some Int64.maxValue := by
    decide +kernel
  exact .snoc (.snoc (.snoc (.snoc (.start rfl) step_seed trivial)
    (step_build "AAAA") room) step_release sound_release)
      (step_build "BBBB") room

theorem opens : pq.Opens crates [9] [9] := by
  intro payload
  simp [PqCrate.verifies, pq, crates]

/-- Both transactions have reached the receiver. -/
def received : Set HybridSignedEnvelope := {hybrid "AAAA", hybrid "BBBB"}

theorem unforged : pq.Unforged [9] trace received := by
  rintro envelope (rfl | rfl) signature _ _
  · exact ⟨build "AAAA", by simp [trace], _, rfl, rfl⟩
  · exact ⟨build "BBBB", by simp [trace], _, rfl, rfl⟩

end Equivocation

/-- Both are accepted, and the device has released their number. -/
theorem accepted_equivocation_released :
    (Equivocation.hybrid "AAAA").Accepted Equivocation.pq [9] ∧
      (Equivocation.hybrid "BBBB").Accepted Equivocation.pq [9] ∧
      ((Equivocation.hybrid "AAAA").classicalEnvelope.txXdr =
          (Equivocation.hybrid "BBBB").classicalEnvelope.txXdr ∨
        .reservation (.release "GABC" 101 (.ok ())) ∈ Equivocation.trace ∨
        ∃ call ∈ Equivocation.trace, call.Unreserved) := by
  have run := @Equivocation.run fun _ => .ok ""
  obtain ⟨passes, cases⟩ :=
    accepted_equivocation Equivocation.opens run Equivocation.unforged
  have first := passes (Equivocation.build "AAAA") (by
    simp [Equivocation.trace]) _ rfl
  have second := passes (Equivocation.build "BBBB") (by
    simp [Equivocation.trace]) _ rfl
  refine ⟨first, second, ?_⟩
  rcases cases _ (Set.mem_insert _ _) _ (Set.mem_insert_of_mem _ rfl) first
      second "GABC" 101 rfl rfl with
    same | released | ⟨call, listed, unreserved, _⟩
  · exact Or.inl same
  · exact Or.inr (Or.inl released)
  · exact Or.inr (Or.inr ⟨call, listed, unreserved⟩)

end StellarConduit
