import SyncEngine.Conflict.Detector
import SyncEngine.Data.Machine
import SyncEngine.Envelope.Multisig

namespace StellarConduit

open Data

/-! Runs of the builder on one manager. -/

inductive BuilderCall
  | seed (account : String) (sequence : Int64)
  | build (sourceAccount : String) (signingKey : SigningKey)
      (policy : SigningPolicy) (txXdr : String) (ttlHops : UInt8)
      (stamp : EnvelopeStamp)

namespace OfflineEnvelopeBuilder

variable (crates : Crates)

def perform (sequences : SequenceReservationManager) :
    BuilderCall → SequenceReservationManager
  | .seed account sequence => sequences.seed account sequence
  | .build sourceAccount signingKey policy txXdr ttlHops stamp =>
      (buildAndSign crates sequences sourceAccount signingKey policy txXdr
        ttlHops stamp).2

/-- The slot of the envelope that a call produces. -/
def produced (sequences : SequenceReservationManager) :
    BuilderCall → Option QueuedSlot
  | .seed _ _ => none
  | .build sourceAccount signingKey policy txXdr ttlHops stamp =>
      match (buildAndSign crates sequences sourceAccount signingKey policy
          txXdr ttlHops stamp).1 with
      | .ok (hybrid, sequence) =>
          some ⟨sourceAccount, sequence, hybrid.classicalEnvelope.messageId⟩
      | .error _ => none

/-- No account is seeded that has a reservation already. -/
def SeedsOnce (sequences : SequenceReservationManager) : BuilderCall → Prop
  | .seed account _ => sequences.lastReserved account = none
  | .build .. => True

/-- A success is for the account and the number that the transaction names,
one above the last reservation, and takes that number alone. -/
structure Takes (sequences : SequenceReservationManager)
    (sourceAccount txXdr : String) (hybrid : HybridSignedEnvelope)
    (sequence : Int64) (after : SequenceReservationManager) : Prop where
  parsed : crates.extractSourceAccountAndSequence txXdr =
    .ok (sourceAccount, sequence)
  next : ∃ last, sequences.lastReserved sourceAccount = some last ∧
    sequence.toInt = last.toInt + 1
  carried : hybrid.classicalEnvelope.txXdr = txXdr
  taken : after.lastReserved sourceAccount = some sequence
  others : ∀ other, other ≠ sourceAccount →
    after.lastReserved other = sequences.lastReserved other
  baseline : after.baseline = sequences.baseline

def Truthful (sequences : SequenceReservationManager) : BuilderCall → Prop
  | .seed _ _ => True
  | .build sourceAccount signingKey policy txXdr ttlHops stamp =>
      match buildAndSign crates sequences sourceAccount signingKey policy
          txXdr ttlHops stamp with
      | (.ok (hybrid, sequence), after) =>
          Takes crates sequences sourceAccount txXdr hybrid sequence after
      | (.error _, after) => after = sequences

/-- The last reservation is the greatest number there is, and the transaction
names the one that follows it modulo the word size. -/
def WrapsAround (sequences : SequenceReservationManager) :
    BuilderCall → Prop
  | .seed _ _ => False
  | .build sourceAccount _ _ txXdr _ _ =>
      sequences.lastReserved sourceAccount = some Int64.maxValue ∧
        crates.extractSourceAccountAndSequence txXdr =
          .ok (sourceAccount, Int64.minValue)

/-- A build fails and changes nothing, or takes the next number. -/
theorem build_cases (sequences : SequenceReservationManager)
    (sourceAccount : String) (signingKey : SigningKey)
    (policy : SigningPolicy) (txXdr : String) (ttlHops : UInt8)
    (stamp : EnvelopeStamp) :
    (∃ error, buildAndSign crates sequences sourceAccount signingKey policy
        txXdr ttlHops stamp = (.error error, sequences)) ∨
    ∃ hybrid last, buildAndSign crates sequences sourceAccount signingKey
        policy txXdr ttlHops stamp =
          (.ok (hybrid, last + 1), { sequences with
            reserved := sequences.reserved.insert sourceAccount (last + 1) }) ∧
      sequences.lastReserved sourceAccount = some last ∧
      crates.extractSourceAccountAndSequence txXdr =
        .ok (sourceAccount, last + 1) ∧
      hybrid.classicalEnvelope.txXdr = txXdr := by
  cases outcome : buildAndSign crates sequences sourceAccount signingKey
      policy txXdr ttlHops stamp with
  | mk result after =>
      cases result with
      | error error =>
          obtain rfl := buildAndSign_error outcome
          exact Or.inl ⟨error, rfl⟩
      | ok success =>
          obtain ⟨hybrid, sequence⟩ := success
          obtain ⟨extracted, reserved, classical⟩ := buildAndSign_ok outcome
          obtain ⟨last, held, rfl, -⟩ :=
            SequenceReservationManager.reserveNext_cases reserved
          rw [SequenceReservationManager.reserveNext_of_reserved held,
            Except.ok.injEq, Prod.mk.injEq] at reserved
          obtain ⟨-, rfl⟩ := reserved
          refine Or.inr ⟨hybrid, last, rfl, held, extracted, ?_⟩
          rw [classical]
          rfl

variable {crates}

theorem takes_next {sequences : SequenceReservationManager}
    {sourceAccount txXdr : String} {hybrid : HybridSignedEnvelope}
    {last : Int64}
    (held : sequences.lastReserved sourceAccount = some last)
    (extracted : crates.extractSourceAccountAndSequence txXdr =
      .ok (sourceAccount, last + 1))
    (carried : hybrid.classicalEnvelope.txXdr = txXdr)
    (below : last ≠ Int64.maxValue) :
    Takes crates sequences sourceAccount txXdr hybrid (last + 1)
      { sequences with
        reserved := sequences.reserved.insert sourceAccount (last + 1) } where
  parsed := extracted
  next := ⟨last, held, toInt_add_one below⟩
  carried := carried
  taken := Finmap.lookup_insert _
  others _ differ := Finmap.lookup_insert_of_ne _ differ
  baseline := rfl

theorem truthful_iff (sequences : SequenceReservationManager)
    (call : BuilderCall) :
    Truthful crates sequences call ↔ ¬ WrapsAround crates sequences call := by
  cases call with
  | seed account sequence => simp [Truthful, WrapsAround]
  | build sourceAccount signingKey policy txXdr ttlHops stamp =>
      simp only [Truthful, WrapsAround]
      rcases build_cases crates sequences sourceAccount signingKey policy
          txXdr ttlHops stamp with
        ⟨error, failed⟩ | ⟨hybrid, last, built, held, extracted, carried⟩
      · rw [failed]
        simp only [true_iff]
        rintro ⟨full, names⟩
        have reserved :=
          SequenceReservationManager.reserveNext_of_reserved full
        have built : buildAndSign crates sequences sourceAccount signingKey
            policy txXdr ttlHops stamp = _ :=
          buildAndSign_of_reserved names reserved
        rw [failed] at built
        cases built
      · rw [built]
        constructor
        · rintro takes ⟨full, names⟩
          obtain ⟨last', held', above⟩ := takes.next
          obtain rfl := Option.some.inj (held.symm.trans held')
          obtain rfl := Option.some.inj (held.symm.trans full)
          exact absurd above (by decide)
        · intro fits
          apply takes_next held extracted carried
          rintro rfl
          exact fits ⟨held, extracted⟩

/-! The slots of a run. -/

def Apart (first second : QueuedSlot) : Prop :=
  first.sourceAccount = second.sourceAccount →
    first.sequence ≠ second.sequence

instance : Std.Symm Apart :=
  ⟨fun _ _ differ same => (differ same.symm).symm⟩

/-- The slots produced so far are apart, and none is past the last reservation
of its account. -/
structure Accounted (sequences : SequenceReservationManager)
    (slots : List QueuedSlot) : Prop where
  apart : slots.Pairwise Apart
  reserved : ∀ slot ∈ slots, ∃ last,
    sequences.lastReserved slot.sourceAccount = some last ∧
      slot.sequence ≤ last

theorem Accounted.perform {sequences : SequenceReservationManager}
    {slots : List QueuedSlot} (accounted : Accounted sequences slots)
    {call : BuilderCall} (once : SeedsOnce sequences call)
    (fits : ¬ WrapsAround crates sequences call) :
    Accounted (perform crates sequences call)
      (slots ++ (produced crates sequences call).toList) := by
  cases call with
  | seed account sequence =>
      simp only [produced, Option.toList_none, List.append_nil]
      refine ⟨accounted.apart, ?_⟩
      intro slot member
      obtain ⟨last, held, within⟩ := accounted.reserved slot member
      have differ : slot.sourceAccount ≠ account := by
        intro same
        rw [same, once] at held
        cases held
      refine ⟨last, ?_, within⟩
      rw [OfflineEnvelopeBuilder.perform,
        SequenceReservationManager.lastReserved_seed, if_neg differ, held]
  | build sourceAccount signingKey policy txXdr ttlHops stamp =>
      rcases build_cases crates sequences sourceAccount signingKey policy
          txXdr ttlHops stamp with
        ⟨error, failed⟩ | ⟨hybrid, last, built, held, extracted, carried⟩
      · simpa only [OfflineEnvelopeBuilder.perform, produced, failed,
          Option.toList_none, List.append_nil] using accounted
      · have below : last ≠ Int64.maxValue := by
          rintro rfl
          exact fits ⟨held, extracted⟩
        have takes := takes_next held extracted carried below
        have bounded : ∀ slot ∈ slots, slot.sourceAccount = sourceAccount →
            slot.sequence ≤ last := by
          intro slot member same
          obtain ⟨last', held', within⟩ := accounted.reserved slot member
          rw [same] at held'
          rwa [Option.some.inj (held.symm.trans held')]
        simp only [OfflineEnvelopeBuilder.perform, produced, built,
          Option.toList_some]
        constructor
        · refine List.pairwise_append.mpr
            ⟨accounted.apart, List.pairwise_singleton _ _, ?_⟩
          intro slot member new isNew same
          obtain rfl := List.mem_singleton.mp isNew
          exact Int64.ne_of_lt (Int64.lt_of_le_of_lt
            (bounded slot member same) (lt_add_one below))
        · intro slot member
          rcases List.mem_append.mp member with before | isNew
          · by_cases same : slot.sourceAccount = sourceAccount
            · exact ⟨last + 1, same ▸ takes.taken, Int64.le_trans
                (bounded slot before same) (Int64.le_of_lt (lt_add_one below))⟩
            · obtain ⟨last', held', within⟩ := accounted.reserved slot before
              exact ⟨last', (takes.others _ same).trans held', within⟩
          · obtain rfl := List.mem_singleton.mp isNew
            exact ⟨last + 1, takes.taken, Int64.le_refl _⟩

theorem Accounted.run {calls : List BuilderCall}
    {sequences : SequenceReservationManager} {slots : List QueuedSlot}
    (accounted : Accounted sequences slots)
    (once : Machine.Always (OfflineEnvelopeBuilder.perform crates) SeedsOnce
      sequences calls)
    (fits : Machine.Always (OfflineEnvelopeBuilder.perform crates)
      (fun sequences call => ¬ WrapsAround crates sequences call) sequences
      calls) :
    Accounted (Machine.run (OfflineEnvelopeBuilder.perform crates) sequences
        calls)
      (slots ++ Machine.collect (OfflineEnvelopeBuilder.perform crates)
        (produced crates) sequences calls) := by
  induction calls generalizing sequences slots with
  | nil => simpa [Machine.run] using accounted
  | cons call calls induction =>
      obtain ⟨onceHere, once⟩ := Machine.always_cons.mp once
      obtain ⟨fitsHere, fits⟩ := Machine.always_cons.mp fits
      rw [Machine.collect, ← List.append_assoc]
      exact induction (accounted.perform onceHere fitsHere) once fits

theorem detectConflicts_of_apart {slots : List QueuedSlot}
    (apart : slots.Pairwise Apart)
    (iteration : HashMap.Iteration (String × Int64) (List Bytes32)) :
    detectConflicts iteration slots = [] := by
  apply List.eq_nil_iff_forall_not_mem.mpr
  intro conflict member
  obtain ⟨ordered, first, second⟩ :=
    (mem_detectConflicts iteration slots).mp member
  have distinct : conflict.envelopeA ≠ conflict.envelopeB := by
    intro same
    rw [same] at ordered
    exact lt_irrefl _ ordered
  exact apart.forall first second
    (fun same => distinct (QueuedSlot.mk.inj same).2.2) rfl rfl

/-- Where no account is seeded over, every build is truthful, and the built
envelopes free of conflicts, unless some build goes past the last number. -/
theorem buildAndSign_atomic_iff (crates : Crates)
    (sequences : SequenceReservationManager) (calls : List BuilderCall)
    (once : Machine.Always (perform crates) SeedsOnce sequences calls) :
    (Machine.Always (perform crates) (Truthful crates) sequences calls ∧
      ∀ iteration, detectConflicts iteration
        (Machine.collect (perform crates) (produced crates) sequences calls) =
          []) ↔
    Machine.Always (perform crates)
      (fun sequences call => ¬ WrapsAround crates sequences call) sequences
      calls := by
  constructor
  · rintro ⟨truthful, -⟩
    exact truthful.mono fun sequences call => (truthful_iff sequences call).mp
  · intro fits
    refine ⟨fits.mono fun sequences call =>
      (truthful_iff sequences call).mpr, ?_⟩
    have start : Accounted sequences [] :=
      ⟨List.Pairwise.nil, fun slot member => absurd member List.not_mem_nil⟩
    exact detectConflicts_of_apart (start.run once fits).apart

/-! An account that is seeded once, and one transaction for it. -/

def sampleXdrCrates (seqNum : Int64) : Crates :=
  { PartiallySignedEnvelope.sampleCrates with
    fromXdrBase64 := fun _ =>
      .ok (.tx ⟨⟨.ed25519 (Vector.replicate 32 0), seqNum, []⟩, []⟩)
    strkey := fun _ => "GABC" }

def sampleBuild : BuilderCall :=
  .build "GABC" ⟨Vector.replicate 32 7⟩ .classicalOnly "AAAA" 10
    ⟨Vector.replicate 32 1, 1000, Vector.replicate 64 2⟩

/-- Past the greatest number, the least one is given out. -/
theorem wrapped_build_succeeds :
    let crates := sampleXdrCrates Int64.minValue
    let sequences := SequenceReservationManager.new.seed "GABC"
      Int64.maxValue
    (produced crates sequences sampleBuild).map QueuedSlot.sequence =
        some Int64.minValue ∧
      ¬ Truthful crates sequences sampleBuild := by
  intro crates sequences
  refine ⟨by decide +kernel, ?_⟩
  rw [truthful_iff, not_not]
  exact ⟨by decide +kernel, by decide +kernel⟩

theorem buildAndSign_atomic_sample :
    let crates := sampleXdrCrates 6
    let calls := [.seed "GABC" 5, sampleBuild]
    Machine.Always (perform crates) (Truthful crates)
        SequenceReservationManager.new calls ∧
      ∀ iteration, detectConflicts iteration (Machine.collect
        (perform crates) (produced crates) SequenceReservationManager.new
        calls) = [] := by
  intro crates calls
  apply (buildAndSign_atomic_iff crates SequenceReservationManager.new calls
    ?_).mpr
  · rw [Machine.always_cons, Machine.always_cons]
    refine ⟨id, ?_, by simp [Machine.Always]⟩
    rintro ⟨full, -⟩
    exact absurd full (by decide +kernel)
  · rw [Machine.always_cons, Machine.always_cons]
    exact ⟨SequenceReservationManager.lastReserved_new "GABC", trivial,
      by simp [Machine.Always]⟩

end OfflineEnvelopeBuilder

end StellarConduit
