import Mathlib.Data.Set.Card
import SyncEngine.Conflict.Resolver

namespace StellarConduit

open Data

section

variable {RelayChainProof VerifyingKey : Type}
  (crates : RelayCrates RelayChainProof VerifyingKey)

/-! What evidence says: which relays speak for which candidate. -/

/-- The relays of which some observation matches the sequence and verifies for
`txId`. -/
def validRelays (conflictSequence : Int64)
    (observations : List (RelayObservation RelayChainProof))
    (txId : Bytes32) : Set Bytes32 :=
  fun relay => ∃ obs ∈ observations, obs.relayPubkey = relay ∧
    crates.sequence obs.proof = conflictSequence.toUInt64 ∧
    ∃ key, crates.fromBytes relay = some key ∧
      crates.verify obs.proof key txId = true

theorem mem_validRelays {conflictSequence : Int64}
    {observations : List (RelayObservation RelayChainProof)}
    {txId relay : Bytes32} :
    relay ∈ validRelays crates conflictSequence observations txId ↔
      ∃ obs ∈ observations, obs.relayPubkey = relay ∧
        crates.sequence obs.proof = conflictSequence.toUInt64 ∧
        ∃ key, crates.fromBytes relay = some key ∧
          crates.verify obs.proof key txId = true :=
  Iff.rfl

theorem coe_countDistinctValidRelays
    (observations : List (RelayObservation RelayChainProof))
    (conflictSequence : Int64) (txId : Bytes32) :
    (countDistinctValidRelays crates observations conflictSequence txId :
        Set Bytes32) =
      validRelays crates conflictSequence observations txId := by
  ext relay
  rw [mem_validRelays, Finset.mem_coe, countDistinctValidRelays,
    List.mem_toFinset, List.mem_map]
  constructor
  · rintro ⟨obs, kept, rfl⟩
    obtain ⟨matching, verified⟩ := List.mem_filter.mp kept
    obtain ⟨observed, sequence⟩ := List.mem_filter.mp matching
    refine ⟨obs, observed, rfl, of_decide_eq_true sequence, ?_⟩
    cases decoded : crates.fromBytes obs.relayPubkey with
    | none => simp [decoded] at verified
    | some key => exact ⟨key, rfl, by simpa [decoded] using verified⟩
  · rintro ⟨obs, observed, rfl, sequence, key, decoded, verified⟩
    refine ⟨obs, List.mem_filter.mpr ⟨List.mem_filter.mpr
      ⟨observed, decide_eq_true sequence⟩, ?_⟩, rfl⟩
    simp [decoded, verified]

theorem card_countDistinctValidRelays
    (observations : List (RelayObservation RelayChainProof))
    (conflictSequence : Int64) (txId : Bytes32) :
    (countDistinctValidRelays crates observations conflictSequence
        txId).card =
      (validRelays crates conflictSequence observations txId).ncard := by
  rw [← coe_countDistinctValidRelays, Set.ncard_coe_finset]

theorem finite_validRelays (conflictSequence : Int64)
    (observations : List (RelayObservation RelayChainProof))
    (txId : Bytes32) :
    (validRelays crates conflictSequence observations txId).Finite := by
  rw [← coe_countDistinctValidRelays]
  exact Finset.finite_toSet _

/-- Observations of a single relay, wherever they are added, count for one at
the most. -/
theorem card_of_added {relay : Bytes32} {conflictSequence : Int64}
    {before added after : List (RelayObservation RelayChainProof)}
    {txId : Bytes32} (single : ∀ obs ∈ added, obs.relayPubkey = relay)
    (mixed : after.Perm (before ++ added)) :
    (countDistinctValidRelays crates before conflictSequence txId).card ≤
        (countDistinctValidRelays crates after conflictSequence txId).card ∧
      (countDistinctValidRelays crates after conflictSequence txId).card ≤
        (countDistinctValidRelays crates before conflictSequence
          txId).card + 1 := by
  have grows : validRelays crates conflictSequence before txId ⊆
      validRelays crates conflictSequence after txId := by
    rintro other ⟨obs, observed, valid⟩
    exact ⟨obs, mixed.mem_iff.mpr (List.mem_append_left _ observed), valid⟩
  have bounded : validRelays crates conflictSequence after txId ⊆
      insert relay (validRelays crates conflictSequence before txId) := by
    rintro other ⟨obs, observed, names, valid⟩
    rcases List.mem_append.mp (mixed.mem_iff.mp observed) with kept | new
    · exact Set.mem_insert_of_mem _ ⟨obs, kept, names, valid⟩
    · exact Set.mem_insert_iff.mpr (Or.inl (names ▸ single obs new))
  simp only [card_countDistinctValidRelays]
  constructor
  · exact Set.ncard_le_ncard grows (finite_validRelays _ _ _ _)
  · exact (Set.ncard_le_ncard bounded
      ((finite_validRelays _ _ _ _).insert _)).trans (Set.ncard_insert_le _ _)

/-! The vote among any number of candidates. -/

/-- `leader` has enough relays, and strictly more than any other entry. -/
def Leads (counts : List (Bytes32 × Nat)) (leader : Bytes32 × Nat) : Prop :=
  ∃ others, counts.Perm (leader :: others) ∧ minQuorum ≤ leader.2 ∧
    ∀ other ∈ others, other.2 < leader.2

theorem Leads.of_perm {counts reordered : List (Bytes32 × Nat)}
    {leader : Bytes32 × Nat} (leads : Leads counts leader)
    (perm : reordered.Perm counts) : Leads reordered leader := by
  obtain ⟨others, split, quorum, fewer⟩ := leads
  exact ⟨others, perm.trans split, quorum, fewer⟩

/-- The relays that speak for every listed candidate, entry by entry. -/
def relayCounts (conflictSequence : Int64)
    (evidence : List (CandidateEvidence RelayChainProof)) :
    List (Bytes32 × Nat) :=
  evidence.map fun candidate =>
    (candidate.messageId, (countDistinctValidRelays crates
      candidate.observations conflictSequence candidate.messageId).card)

theorem filter_most {counts : List (Bytes32 × Nat)} {most : Nat}
    (maximal : (counts.map Prod.snd).max? = some most)
    (leader : Bytes32 × Nat) :
    (counts.filter fun count => count.2 = most) = [leader] ∧
        minQuorum ≤ most ↔
      Leads counts leader := by
  obtain ⟨attained, bound⟩ := List.max?_eq_some_iff.mp maximal
  constructor
  · rintro ⟨alone, quorum⟩
    have kept : leader ∈ counts.filter fun count => count.2 = most := by
      simp [alone]
    obtain rfl : leader.2 = most := by simpa using (List.mem_filter.mp kept).2
    have split := List.filter_append_perm
      (fun count : Bytes32 × Nat => decide (count.2 = leader.2)) counts
    rw [alone] at split
    refine ⟨_, split.symm, quorum, ?_⟩
    intro other among
    obtain ⟨listed, differs⟩ := List.mem_filter.mp among
    have atMost : other.2 ≤ leader.2 :=
      bound _ (List.mem_map_of_mem listed)
    exact lt_of_le_of_ne atMost (by simpa using differs)
  · rintro ⟨others, split, quorum, fewer⟩
    have listed : leader ∈ counts := split.mem_iff.mpr (by simp)
    obtain rfl : most = leader.2 := by
      apply le_antisymm
      · obtain ⟨top, topListed, rfl⟩ := List.mem_map.mp attained
        rcases List.mem_cons.mp (split.mem_iff.mp topListed) with rfl | other
        · exact le_refl _
        · exact (fewer top other).le
      · exact bound _ (List.mem_map_of_mem listed)
    have none_other :
        (others.filter fun count => decide (count.2 = leader.2)) = [] :=
      List.filter_eq_nil_iff.mpr fun other among =>
        by simpa using (fewer other among).ne
    have filtered := split.filter fun count => decide (count.2 = leader.2)
    rw [List.filter_cons_of_pos (by simp), none_other] at filtered
    exact ⟨List.perm_singleton.mp filtered, quorum⟩

theorem sorted_ids_iff {conflict : NWayConflict}
    {evidence : List (CandidateEvidence RelayChainProof)} :
    sortBy Bytes32.rank conflict.messageIds =
        sortBy Bytes32.rank (evidence.map CandidateEvidence.messageId) ↔
      (evidence.map CandidateEvidence.messageId).Perm conflict.messageIds := by
  constructor
  · intro same
    exact (sortBy_perm Bytes32.rank _).symm.trans
      (same ▸ sortBy_perm Bytes32.rank conflict.messageIds)
  · intro listed
    exact sortBy_eq_of_perm Bytes32.rank_injective listed.symm

theorem resolveNwayConflict_mismatched {conflict : NWayConflict}
    {evidence : List (CandidateEvidence RelayChainProof)}
    (others : ¬(evidence.map CandidateEvidence.messageId).Perm
      conflict.messageIds) :
    ∃ reason, resolveNwayConflict crates conflict evidence =
      some (.error (.unresolvedConflict reason)) := by
  unfold resolveNwayConflict
  dsimp only
  rw [if_pos fun same => others (sorted_ids_iff.mp same)]
  exact ⟨_, rfl⟩

theorem resolveNwayConflict_panics {conflict : NWayConflict}
    {evidence : List (CandidateEvidence RelayChainProof)}
    (listed : (evidence.map CandidateEvidence.messageId).Perm
      conflict.messageIds) (empty : conflict.messageIds = []) :
    resolveNwayConflict crates conflict evidence = none := by
  rw [empty] at listed
  rw [List.map_eq_nil_iff.mp listed.eq_nil]
  unfold resolveNwayConflict
  dsimp only
  rw [empty, List.map_nil, if_neg (not_not.mpr rfl)]
  rfl

/-- Evidence for exactly the candidates of the conflict is decided by the
leading entry, if there is one. -/
theorem resolveNwayConflict_matching {conflict : NWayConflict}
    {evidence : List (CandidateEvidence RelayChainProof)}
    (listed : (evidence.map CandidateEvidence.messageId).Perm
      conflict.messageIds) (candidates : conflict.messageIds ≠ []) :
    ∃ result leading,
      resolveNwayConflict crates conflict evidence = some result ∧
      Reports result (leading.map Prod.fst) ∧
      ∀ leader, leading = some leader ↔
        Leads (relayCounts crates conflict.sequence evidence) leader := by
  have matching := sorted_ids_iff.mpr listed
  unfold resolveNwayConflict
  dsimp only
  rw [if_neg (not_not.mpr matching)]
  rw [← relayCounts]
  cases maximal : ((relayCounts crates conflict.sequence evidence).map
      Prod.snd).max? with
  | none =>
      have noEvidence : evidence = [] := by
        simpa [relayCounts, List.max?_eq_none_iff] using maximal
      subst noEvidence
      exact absurd (List.nil_perm.mp listed) candidates
  | some most =>
      have leads := filter_most maximal
      rw [Option.bind_some]
      cases kept : (relayCounts crates conflict.sequence evidence).filter
          fun count => decide (count.2 = most) with
      | nil =>
          obtain ⟨attained, -⟩ := List.max?_eq_some_iff.mp maximal
          obtain ⟨top, topListed, topMost⟩ := List.mem_map.mp attained
          have topKept : top ∈ (relayCounts crates conflict.sequence
              evidence).filter fun count => decide (count.2 = most) :=
            List.mem_filter.mpr ⟨topListed, decide_eq_true topMost⟩
          simp [kept] at topKept
      | cons winner others =>
          rw [kept] at leads
          dsimp only
          split
          · rename_i alone
            obtain ⟨noOthers, quorum⟩ := alone
            rw [List.isEmpty_iff.mp noOthers] at leads
            refine ⟨_, some winner, rfl, rfl, ?_⟩
            intro leader
            rw [← leads leader, List.cons.injEq, Option.some_inj]
            simp [quorum]
          · rename_i contested
            refine ⟨_, none, rfl, ⟨_, rfl⟩, ?_⟩
            intro leader
            rw [← leads leader, List.cons.injEq]
            constructor
            · intro absurdity
              cases absurdity
            · intro alone
              obtain ⟨⟨-, noOthers⟩, quorum⟩ := alone
              exact absurd ⟨List.isEmpty_iff.mpr noOthers, quorum⟩ contested

/-! Two bodies of evidence for one conflict. -/

/-- Both name the same winner, or both report that there is none. -/
def SameDecision (first second : Except SyncEngineError Bytes32) : Prop :=
  ∃ winner, Reports first winner ∧ Reports second winner

/-- The valid relays of every entry for `messageId`. Evidence that lists a
candidate once has one entry for it. -/
def corroboration (conflictSequence : Int64)
    (evidence : List (CandidateEvidence RelayChainProof))
    (messageId : Bytes32) : List (Set Bytes32) :=
  (evidence.filter fun candidate => candidate.messageId = messageId).map
    fun candidate => validRelays crates conflictSequence
      candidate.observations candidate.messageId

theorem relayCounts_eq (conflictSequence : Int64)
    (evidence : List (CandidateEvidence RelayChainProof)) :
    relayCounts crates conflictSequence evidence =
      evidence.map fun candidate =>
        (candidate.messageId, (validRelays crates conflictSequence
          candidate.observations candidate.messageId).ncard) := by
  simp only [relayCounts, card_countDistinctValidRelays]

theorem count_relayCounts (conflictSequence : Int64)
    (evidence : List (CandidateEvidence RelayChainProof))
    (messageId : Bytes32) (relays : Nat) :
    (relayCounts crates conflictSequence evidence).count
        (messageId, relays) =
      ((corroboration crates conflictSequence evidence messageId).map
        Set.ncard).count relays := by
  rw [relayCounts_eq, corroboration]
  induction evidence with
  | nil => rfl
  | cons candidate rest induction =>
      rw [List.map_cons, List.count_cons, induction]
      by_cases same : candidate.messageId = messageId
      · simp [same, List.count_cons]
      · simp [same]

theorem relayCounts_perm {conflictSequence : Int64}
    {first second : List (CandidateEvidence RelayChainProof)}
    (same : ∀ messageId,
      (corroboration crates conflictSequence first messageId).Perm
        (corroboration crates conflictSequence second messageId)) :
    (relayCounts crates conflictSequence first).Perm
      (relayCounts crates conflictSequence second) := by
  apply List.perm_iff_count.mpr
  intro count
  obtain ⟨messageId, relays⟩ := count
  rw [count_relayCounts, count_relayCounts]
  exact ((same messageId).map Set.ncard).count_eq relays

theorem map_fst_relayCounts (conflictSequence : Int64)
    (evidence : List (CandidateEvidence RelayChainProof)) :
    (relayCounts crates conflictSequence evidence).map Prod.fst =
      evidence.map CandidateEvidence.messageId := by
  simp [relayCounts, Function.comp_def]

theorem resolveConflict_same {conflict : Conflict}
    {first second : ConflictEvidence RelayChainProof}
    (sameA : validRelays crates conflict.sequence
        first.envelopeAObservations conflict.envelopeA =
      validRelays crates conflict.sequence
        second.envelopeAObservations conflict.envelopeA)
    (sameB : validRelays crates conflict.sequence
        first.envelopeBObservations conflict.envelopeB =
      validRelays crates conflict.sequence
        second.envelopeBObservations conflict.envelopeB) :
    SameDecision (resolveConflict crates conflict first)
      (resolveConflict crates conflict second) := by
  have firstReports := resolveConflict_reports crates conflict first
  have secondReports := resolveConflict_reports crates conflict second
  simp only [card_countDistinctValidRelays, sameA, sameB]
    at firstReports secondReports
  exact ⟨_, firstReports, secondReports⟩

theorem resolveNwayConflict_same {conflict : NWayConflict}
    {first second : List (CandidateEvidence RelayChainProof)}
    (same : ∀ messageId,
      (corroboration crates conflict.sequence first messageId).Perm
        (corroboration crates conflict.sequence second messageId)) :
    (∃ firstResult secondResult,
      resolveNwayConflict crates conflict first = some firstResult ∧
      resolveNwayConflict crates conflict second = some secondResult ∧
      SameDecision firstResult secondResult) ∨
    (conflict.messageIds = [] ∧
      resolveNwayConflict crates conflict first = none ∧
      resolveNwayConflict crates conflict second = none) := by
  have counts := relayCounts_perm crates same
  have names : (first.map CandidateEvidence.messageId).Perm
      (second.map CandidateEvidence.messageId) := by
    simpa only [map_fst_relayCounts] using counts.map Prod.fst
  by_cases listed : (first.map CandidateEvidence.messageId).Perm
      conflict.messageIds
  · have alsoListed := names.symm.trans listed
    by_cases empty : conflict.messageIds = []
    · exact Or.inr ⟨empty, resolveNwayConflict_panics crates listed empty,
        resolveNwayConflict_panics crates alsoListed empty⟩
    · left
      obtain ⟨firstResult, firstLeading, firstDecided, firstReports,
        firstLeads⟩ := resolveNwayConflict_matching crates listed empty
      obtain ⟨secondResult, secondLeading, secondDecided, secondReports,
        secondLeads⟩ := resolveNwayConflict_matching crates alsoListed empty
      have sameLeading : firstLeading = secondLeading := by
        apply Option.ext
        intro leader
        calc firstLeading = some leader
            ↔ Leads (relayCounts crates conflict.sequence first) leader :=
              firstLeads leader
          _ ↔ Leads (relayCounts crates conflict.sequence second) leader :=
              ⟨fun leads => leads.of_perm counts.symm,
                fun leads => leads.of_perm counts⟩
          _ ↔ secondLeading = some leader := (secondLeads leader).symm
      exact ⟨firstResult, secondResult, firstDecided, secondDecided, _,
        firstReports, sameLeading ▸ secondReports⟩
  · left
    obtain ⟨reason, refused⟩ :=
      resolveNwayConflict_mismatched crates listed
    obtain ⟨alsoReason, alsoRefused⟩ :=
      resolveNwayConflict_mismatched crates
        fun other => listed (names.trans other)
    exact ⟨_, _, refused, alsoRefused, none, ⟨_, rfl⟩, ⟨_, rfl⟩⟩

theorem resolveConflict_winner {conflict : Conflict}
    {evidence : ConflictEvidence RelayChainProof} {winner : Bytes32}
    (won : resolveConflict crates conflict evidence = .ok winner) :
    let relaysA := (countDistinctValidRelays crates
      evidence.envelopeAObservations conflict.sequence
      conflict.envelopeA).card
    let relaysB := (countDistinctValidRelays crates
      evidence.envelopeBObservations conflict.sequence
      conflict.envelopeB).card
    (winner = conflict.envelopeA ∧ 2 ≤ relaysA ∧ relaysB < relaysA) ∨
      (winner = conflict.envelopeB ∧ 2 ≤ relaysB ∧ relaysA < relaysB) := by
  intro relaysA relaysB
  have ruled := ((resolveConflict_reports crates conflict evidence).eq_ok
    winner).mp won
  change pairWinner _ _ relaysA relaysB = some winner at ruled
  unfold pairWinner at ruled
  split at ruled
  · rename_i first
    exact Or.inl ⟨(Option.some_inj.mp ruled).symm, first⟩
  · split at ruled
    · rename_i second
      exact Or.inr ⟨(Option.some_inj.mp ruled).symm, second⟩
    · cases ruled

theorem resolveNwayConflict_winner {conflict : NWayConflict}
    {evidence : List (CandidateEvidence RelayChainProof)} {winner : Bytes32}
    (won : resolveNwayConflict crates conflict evidence =
      some (.ok winner)) :
    ∃ before leader after, evidence = before ++ leader :: after ∧
      leader.messageId = winner ∧
      2 ≤ (countDistinctValidRelays crates leader.observations
        conflict.sequence leader.messageId).card ∧
      ∀ other ∈ before ++ after,
        (countDistinctValidRelays crates other.observations
          conflict.sequence other.messageId).card <
        (countDistinctValidRelays crates leader.observations
          conflict.sequence leader.messageId).card := by
  by_cases listed : (evidence.map CandidateEvidence.messageId).Perm
      conflict.messageIds
  · by_cases empty : conflict.messageIds = []
    · rw [resolveNwayConflict_panics crates listed empty] at won
      cases won
    · obtain ⟨result, leading, decided, reports, leads⟩ :=
        resolveNwayConflict_matching crates listed empty
      obtain rfl : result = .ok winner :=
        Option.some_inj.mp (decided.symm.trans won)
      obtain ⟨entry, rfl, named⟩ :=
        Option.map_eq_some_iff.mp ((reports.eq_ok winner).mp rfl)
      obtain ⟨others, split, quorum, fewer⟩ := (leads entry).mp rfl
      obtain ⟨leader, among, rfl⟩ :=
        List.mem_map.mp (split.mem_iff.mpr List.mem_cons_self)
      obtain ⟨before, after, rfl⟩ := List.append_of_mem among
      rw [relayCounts, List.map_append, List.map_cons] at split
      have rest := (List.perm_middle.symm.trans split).cons_inv
      rw [← List.map_append] at rest
      refine ⟨before, leader, after, rfl, named, quorum, ?_⟩
      intro other member
      exact fewer _ (rest.mem_iff.mp (List.mem_map_of_mem member))
  · obtain ⟨reason, refused⟩ :=
      resolveNwayConflict_mismatched crates listed
    rw [refused] at won
    cases won

/-- Whatever `verify` accepts: both resolvers go by which relays validly speak
for which candidate and by nothing else, one relay adds one at the most, and
a winner has two relays and more than any other candidate. -/
theorem resolution_by_valid_relays :
    (∀ (conflict : Conflict)
        (first second : ConflictEvidence RelayChainProof),
      validRelays crates conflict.sequence first.envelopeAObservations
          conflict.envelopeA =
        validRelays crates conflict.sequence second.envelopeAObservations
          conflict.envelopeA →
      validRelays crates conflict.sequence first.envelopeBObservations
          conflict.envelopeB =
        validRelays crates conflict.sequence second.envelopeBObservations
          conflict.envelopeB →
      SameDecision (resolveConflict crates conflict first)
        (resolveConflict crates conflict second)) ∧
    (∀ (conflict : NWayConflict)
        (first second : List (CandidateEvidence RelayChainProof)),
      (∀ messageId,
        (corroboration crates conflict.sequence first messageId).Perm
          (corroboration crates conflict.sequence second messageId)) →
      (∃ firstResult secondResult,
        resolveNwayConflict crates conflict first = some firstResult ∧
        resolveNwayConflict crates conflict second = some secondResult ∧
        SameDecision firstResult secondResult) ∨
      (conflict.messageIds = [] ∧
        resolveNwayConflict crates conflict first = none ∧
        resolveNwayConflict crates conflict second = none)) ∧
    (∀ (relay txId : Bytes32) (conflictSequence : Int64)
        (before added after : List (RelayObservation RelayChainProof)),
      (∀ obs ∈ added, obs.relayPubkey = relay) →
      after.Perm (before ++ added) →
      (countDistinctValidRelays crates before conflictSequence txId).card ≤
          (countDistinctValidRelays crates after conflictSequence
            txId).card ∧
        (countDistinctValidRelays crates after conflictSequence txId).card ≤
          (countDistinctValidRelays crates before conflictSequence
            txId).card + 1) ∧
    (∀ (conflict : Conflict) (evidence : ConflictEvidence RelayChainProof)
        (winner : Bytes32),
      resolveConflict crates conflict evidence = .ok winner →
      let relaysA := (countDistinctValidRelays crates
        evidence.envelopeAObservations conflict.sequence
        conflict.envelopeA).card
      let relaysB := (countDistinctValidRelays crates
        evidence.envelopeBObservations conflict.sequence
        conflict.envelopeB).card
      (winner = conflict.envelopeA ∧ 2 ≤ relaysA ∧ relaysB < relaysA) ∨
        (winner = conflict.envelopeB ∧ 2 ≤ relaysB ∧ relaysA < relaysB)) ∧
    (∀ (conflict : NWayConflict)
        (evidence : List (CandidateEvidence RelayChainProof))
        (winner : Bytes32),
      resolveNwayConflict crates conflict evidence = some (.ok winner) →
      ∃ before leader after, evidence = before ++ leader :: after ∧
        leader.messageId = winner ∧
        2 ≤ (countDistinctValidRelays crates leader.observations
          conflict.sequence leader.messageId).card ∧
        ∀ other ∈ before ++ after,
          (countDistinctValidRelays crates other.observations
            conflict.sequence other.messageId).card <
          (countDistinctValidRelays crates leader.observations
            conflict.sequence leader.messageId).card) := by
  refine ⟨?_, ?_, ?_, ?_, ?_⟩
  · intro conflict first second sameA sameB
    exact resolveConflict_same crates sameA sameB
  · intro conflict first second same
    exact resolveNwayConflict_same crates same
  · intro relay txId conflictSequence before added after single mixed
    exact card_of_added crates single mixed
  · intro conflict evidence winner won
    exact resolveConflict_winner crates won
  · intro conflict evidence winner won
    exact resolveNwayConflict_winner crates won

end

/-- The same relays, reordered and repeated, with one observation that speaks
for the other side. -/
def noisyEvidence (a b : Bytes32) : ConflictEvidence SampleProof where
  envelopeATimestamp := 99
  envelopeBTimestamp := 98
  envelopeAObservations :=
    sampleObservation (Vector.replicate 32 3) b ::
      (sampleEvidence a b).envelopeAObservations.reverse ++
        (sampleEvidence a b).envelopeAObservations
  envelopeBObservations := (sampleEvidence a b).envelopeBObservations

theorem resolution_by_valid_relays_sample :
    let a : Bytes32 := Vector.replicate 32 8
    let b : Bytes32 := Vector.replicate 32 9
    SameDecision
      (resolveConflict sampleRelayCrates ⟨"GA", 7, a, b⟩ (sampleEvidence a b))
      (resolveConflict sampleRelayCrates ⟨"GA", 7, a, b⟩
        (noisyEvidence a b)) := by
  intro a b
  have sameA : countDistinctValidRelays sampleRelayCrates
        (sampleEvidence a b).envelopeAObservations 7 a =
      countDistinctValidRelays sampleRelayCrates
        (noisyEvidence a b).envelopeAObservations 7 a := by
    decide +kernel
  apply (resolution_by_valid_relays sampleRelayCrates).1
  · rw [← coe_countDistinctValidRelays, ← coe_countDistinctValidRelays]
    exact congrArg _ sameA
  · rfl

end StellarConduit
