import Mathlib.Data.Finset.Card
import Mathlib.Data.List.Permutation
import SyncEngine.Conflict.Detector

namespace StellarConduit

open Data

/-- `MIN_QUORUM` -/
def minQuorum : Nat := 2

/-- What the resolver uses of `RelayChainProof` in the core crate and of
`VerifyingKey` in ed25519_dalek. -/
structure RelayCrates (RelayChainProof VerifyingKey : Type) where
  sequence : RelayChainProof → UInt64
  fromBytes : Bytes32 → Option VerifyingKey
  verify : RelayChainProof → VerifyingKey → Bytes32 → Bool

structure RelayObservation (RelayChainProof : Type) where
  relayPubkey : Bytes32
  proof : RelayChainProof

structure ConflictEvidence (RelayChainProof : Type) where
  envelopeATimestamp : UInt64
  envelopeBTimestamp : UInt64
  envelopeAObservations : List (RelayObservation RelayChainProof)
  envelopeBObservations : List (RelayObservation RelayChainProof)

structure CandidateEvidence (RelayChainProof : Type) where
  messageId : Bytes32
  timestamp : UInt64
  observations : List (RelayObservation RelayChainProof)

section

variable {RelayChainProof VerifyingKey : Type}
  (crates : RelayCrates RelayChainProof VerifyingKey)

def countDistinctValidRelays
    (observations : List (RelayObservation RelayChainProof))
    (conflictSequence : Int64) (txId : Bytes32) : Finset Bytes32 :=
  let expectedSequence := conflictSequence.toUInt64
  (((observations.filter fun obs =>
    crates.sequence obs.proof = expectedSequence).filter fun obs =>
      ((crates.fromBytes obs.relayPubkey).map fun key =>
        crates.verify obs.proof key txId).getD false).map
    RelayObservation.relayPubkey).toFinset

def resolveConflict (conflict : Conflict)
    (evidence : ConflictEvidence RelayChainProof) :
    Except SyncEngineError Bytes32 :=
  let relaysA := countDistinctValidRelays crates
    evidence.envelopeAObservations conflict.sequence conflict.envelopeA
  let relaysB := countDistinctValidRelays crates
    evidence.envelopeBObservations conflict.sequence conflict.envelopeB
  let nA := relaysA.card
  let nB := relaysB.card
  let aWins := decide (minQuorum ≤ nA ∧ nB < nA)
  let bWins := decide (minQuorum ≤ nB ∧ nA < nB)
  match aWins, bWins with
  | true, false => .ok conflict.envelopeA
  | false, true => .ok conflict.envelopeB
  | _, _ => .error (.unresolvedConflict
      ("conflict on account " ++ conflict.sourceAccount ++ " sequence " ++
        toString conflict.sequence.toInt ++ " between " ++
        hexEncode conflict.envelopeA ++ " (timestamp " ++
        toString evidence.envelopeATimestamp.toNat ++ ", " ++ toString nA ++
        " verified distinct relay(s)) and " ++ hexEncode conflict.envelopeB ++
        " (timestamp " ++ toString evidence.envelopeBTimestamp.toNat ++ ", " ++
        toString nB ++ " verified distinct relay(s)) could not be resolved " ++
        "off-chain: a winning side needs at least " ++ toString minQuorum ++
        " distinct corroborating relays and strictly more than the other " ++
        "side"))

/-- `none` is the panic on evidence for no candidate at all. -/
def resolveNwayConflict (conflict : NWayConflict)
    (evidence : List (CandidateEvidence RelayChainProof)) :
    Option (Except SyncEngineError Bytes32) :=
  let expectedIds := sortBy Bytes32.rank conflict.messageIds
  let givenIds :=
    sortBy Bytes32.rank (evidence.map CandidateEvidence.messageId)
  if expectedIds ≠ givenIds then
    some (.error (.unresolvedConflict
      ("evidence provided for account " ++ conflict.sourceAccount ++
        " sequence " ++ toString conflict.sequence.toInt ++
        " does not match the " ++ toString conflict.messageIds.length ++
        " conflicting envelope(s) on that slot")))
  else
    let counts := evidence.map fun candidate =>
      (candidate.messageId, (countDistinctValidRelays crates
        candidate.observations conflict.sequence candidate.messageId).card)
    (counts.map Prod.snd).max?.bind fun maxCount =>
      match counts.filter fun count => count.2 = maxCount with
      | [] => none
      | winner :: others =>
          let uniqueWinner := others.isEmpty
          if uniqueWinner ∧ minQuorum ≤ maxCount then
            some (.ok winner.1)
          else
            some (.error (.unresolvedConflict
              ("conflict on account " ++ conflict.sourceAccount ++
                " sequence " ++ toString conflict.sequence.toInt ++
                " among " ++ toString conflict.messageIds.length ++
                " candidates could not be resolved off-chain: a winning " ++
                "envelope needs at least " ++ toString minQuorum ++
                " distinct corroborating relays and strictly more than " ++
                "every other candidate")))

/-! Two candidates. -/

/-- Of two envelopes with `m` and `n` distinct relays, the one that wins. -/
def pairWinner (first second : Bytes32) (m n : Nat) : Option Bytes32 :=
  if minQuorum ≤ m ∧ n < m then some first
  else if minQuorum ≤ n ∧ m < n then some second
  else none

theorem pairWinner_comm (first second : Bytes32) (m n : Nat) :
    pairWinner first second m n = pairWinner second first n m := by
  unfold pairWinner
  split_ifs <;> first | rfl | omega

/-- `result` reports `winner`, or that there is none. -/
def Reports (result : Except SyncEngineError Bytes32) :
    Option Bytes32 → Prop
  | some winner => result = .ok winner
  | none => ∃ reason, result = .error (.unresolvedConflict reason)

theorem Reports.eq_ok {result : Except SyncEngineError Bytes32}
    {winner : Option Bytes32} (reports : Reports result winner)
    (other : Bytes32) : result = .ok other ↔ winner = some other := by
  cases winner with
  | none =>
      obtain ⟨reason, rfl⟩ := reports
      simp
  | some winner =>
      obtain rfl : result = .ok winner := reports
      simp

theorem resolveConflict_reports (conflict : Conflict)
    (evidence : ConflictEvidence RelayChainProof) :
    Reports (resolveConflict crates conflict evidence)
      (pairWinner conflict.envelopeA conflict.envelopeB
        (countDistinctValidRelays crates evidence.envelopeAObservations
          conflict.sequence conflict.envelopeA).card
        (countDistinctValidRelays crates evidence.envelopeBObservations
          conflict.sequence conflict.envelopeB).card) := by
  unfold resolveConflict pairWinner
  dsimp only
  generalize (countDistinctValidRelays crates evidence.envelopeAObservations
    conflict.sequence conflict.envelopeA).card = m
  generalize (countDistinctValidRelays crates evidence.envelopeBObservations
    conflict.sequence conflict.envelopeB).card = n
  by_cases aWins : minQuorum ≤ m ∧ n < m
  · have bLoses : ¬(minQuorum ≤ n ∧ m < n) := by omega
    simp [aWins, bLoses, Reports]
  · by_cases bWins : minQuorum ≤ n ∧ m < n
    · simp [aWins, bWins, Reports]
    · simp [aWins, bWins, Reports]

theorem resolveNwayConflict_reports (conflict : NWayConflict)
    (first second : CandidateEvidence RelayChainProof)
    (ids : conflict.messageIds.Perm [first.messageId, second.messageId]) :
    ∃ result,
      resolveNwayConflict crates conflict [first, second] = some result ∧
      Reports result (pairWinner first.messageId second.messageId
        (countDistinctValidRelays crates first.observations conflict.sequence
          first.messageId).card
        (countDistinctValidRelays crates second.observations conflict.sequence
          second.messageId).card) := by
  have matching : sortBy Bytes32.rank conflict.messageIds =
      sortBy Bytes32.rank
        ([first, second].map CandidateEvidence.messageId) :=
    sortBy_eq_of_perm Bytes32.rank_injective ids
  unfold resolveNwayConflict pairWinner
  dsimp only
  rw [if_neg (not_not.mpr matching)]
  simp only [List.map_cons, List.map_nil]
  generalize (countDistinctValidRelays crates first.observations
    conflict.sequence first.messageId).card = m
  generalize (countDistinctValidRelays crates second.observations
    conflict.sequence second.messageId).card = n
  have most : [m, n].max? = some (max m n) := rfl
  rw [most, Option.bind_some]
  rcases lt_trichotomy m n with below | rfl | above
  · have top : max m n = n := max_eq_right below.le
    have firstLess : m ≠ n := below.ne
    have firstLoses : ¬(minQuorum ≤ m ∧ n < m) := by omega
    by_cases quorum : minQuorum ≤ n
    · simp [top, firstLess, firstLoses, quorum, below, Reports]
    · simp [top, firstLess, firstLoses, quorum, Reports]
  · simp [Reports]
  · have top : max m n = m := max_eq_left above.le
    have secondLess : n ≠ m := above.ne
    have secondLoses : ¬(minQuorum ≤ n ∧ m < n) := by omega
    by_cases quorum : minQuorum ≤ m
    · simp [top, secondLess, quorum, above, Reports]
    · simp [top, secondLess, secondLoses, quorum, Reports]

/-- On two candidates, in whatever order ids and evidence come,
`resolve_nway_conflict` decides as `resolve_conflict` does. -/
theorem resolveNwayConflict_pair (conflict : Conflict)
    (evidence : ConflictEvidence RelayChainProof)
    (messageIds : List Bytes32)
    (candidates : List (CandidateEvidence RelayChainProof))
    (ids : messageIds.Perm [conflict.envelopeA, conflict.envelopeB])
    (given : candidates.Perm
      [⟨conflict.envelopeA, evidence.envelopeATimestamp,
          evidence.envelopeAObservations⟩,
        ⟨conflict.envelopeB, evidence.envelopeBTimestamp,
          evidence.envelopeBObservations⟩]) :
    (∀ winner,
      resolveNwayConflict crates
          ⟨conflict.sourceAccount, conflict.sequence, messageIds⟩ candidates =
        some (.ok winner) ↔
      resolveConflict crates conflict evidence = .ok winner) ∧
    ((∀ winner, resolveConflict crates conflict evidence ≠ .ok winner) →
      ∃ reason,
        resolveNwayConflict crates
            ⟨conflict.sourceAccount, conflict.sequence, messageIds⟩
            candidates =
          some (.error (.unresolvedConflict reason))) := by
  have pairwise := resolveConflict_reports crates conflict evidence
  obtain ⟨result, decided, reports⟩ : ∃ result,
      resolveNwayConflict crates
          ⟨conflict.sourceAccount, conflict.sequence, messageIds⟩ candidates =
        some result ∧
      Reports result (pairWinner conflict.envelopeA conflict.envelopeB
        (countDistinctValidRelays crates evidence.envelopeAObservations
          conflict.sequence conflict.envelopeA).card
        (countDistinctValidRelays crates evidence.envelopeBObservations
          conflict.sequence conflict.envelopeB).card) := by
    rcases List.perm_pair.mp given with rfl | rfl
    · exact resolveNwayConflict_reports crates _ _ _ ids
    · rw [pairWinner_comm]
      exact resolveNwayConflict_reports crates _ _ _
        (ids.trans (List.Perm.swap _ _ _))
  rw [decided]
  simp only [Option.some_inj]
  refine ⟨fun winner => (reports.eq_ok winner).trans
    (pairwise.eq_ok winner).symm, fun undecided => ?_⟩
  cases winner : pairWinner conflict.envelopeA conflict.envelopeB
      (countDistinctValidRelays crates evidence.envelopeAObservations
        conflict.sequence conflict.envelopeA).card
      (countDistinctValidRelays crates evidence.envelopeBObservations
        conflict.sequence conflict.envelopeB).card with
  | none =>
      rw [winner] at reports
      exact reports
  | some winning =>
      exact absurd ((pairwise.eq_ok winning).mpr winner) (undecided winning)

end

/-! Proofs that name what was signed, and by whom. -/

structure SampleProof where
  signer : Bytes32
  txId : Bytes32
  sequence : UInt64

def sampleRelayCrates : RelayCrates SampleProof Bytes32 where
  sequence := SampleProof.sequence
  fromBytes := some
  verify proof key txId := proof.signer = key ∧ proof.txId = txId

def sampleObservation (relay txId : Bytes32) : RelayObservation SampleProof :=
  ⟨relay, relay, txId, 7⟩

def sampleEvidence (a b : Bytes32) : ConflictEvidence SampleProof where
  envelopeATimestamp := 10
  envelopeBTimestamp := 11
  envelopeAObservations :=
    [sampleObservation (Vector.replicate 32 1) a,
      sampleObservation (Vector.replicate 32 2) a]
  envelopeBObservations :=
    [sampleObservation (Vector.replicate 32 1) b,
      sampleObservation (Vector.replicate 32 1) b]

/-- Two relays against one that signed twice. -/
theorem resolveNwayConflict_pair_sample :
    let a : Bytes32 := Vector.replicate 32 8
    let b : Bytes32 := Vector.replicate 32 9
    let evidence := sampleEvidence a b
    resolveNwayConflict sampleRelayCrates ⟨"GA", 7, [b, a]⟩
        [⟨b, 11, evidence.envelopeBObservations⟩,
          ⟨a, 10, evidence.envelopeAObservations⟩] =
      some (.ok a) := by
  intro a b evidence
  exact ((resolveNwayConflict_pair sampleRelayCrates ⟨"GA", 7, a, b⟩ evidence
    [b, a] _ (List.Perm.swap a b []) (List.Perm.swap _ _ [])).1 a).mpr
    (by decide +kernel)

end StellarConduit
