import SyncEngine.Conflict.Evidence

namespace StellarConduit

open Data

section

variable {RelayChainProof VerifyingKey : Type}
  (crates : RelayCrates RelayChainProof VerifyingKey)

/-! The order of the evidence. -/

theorem max?_of_perm {first second : List Nat} (perm : first.Perm second) :
    first.max? = second.max? := by
  cases maximal : second.max? with
  | none =>
      rw [List.max?_eq_none_iff] at maximal ⊢
      rw [maximal] at perm
      exact perm.eq_nil
  | some most =>
      obtain ⟨attained, bound⟩ := List.max?_eq_some_iff.mp maximal
      exact List.max?_eq_some_iff.mpr ⟨perm.mem_iff.mpr attained,
        fun count listed => bound count (perm.mem_iff.mp listed)⟩

theorem resolveNwayConflict_of_perm (conflict : NWayConflict)
    {first second : List (CandidateEvidence RelayChainProof)}
    (perm : first.Perm second) :
    resolveNwayConflict crates conflict first =
      resolveNwayConflict crates conflict second := by
  have ids : sortBy Bytes32.rank (first.map CandidateEvidence.messageId) =
      sortBy Bytes32.rank (second.map CandidateEvidence.messageId) :=
    sortBy_eq_of_perm Bytes32.rank_injective (perm.map _)
  have counts : (relayCounts crates conflict.sequence first).Perm
      (relayCounts crates conflict.sequence second) := perm.map _
  have most := max?_of_perm (counts.map Prod.snd)
  unfold resolveNwayConflict
  dsimp only
  rw [← relayCounts, ← relayCounts, ids, most]
  congr 1
  cases ((relayCounts crates conflict.sequence second).map
      Prod.snd).max? with
  | none => rfl
  | some maxCount =>
      have kept := counts.filter fun count => decide (count.2 = maxCount)
      rw [Option.bind_some, Option.bind_some]
      cases firsts : (relayCounts crates conflict.sequence first).filter
          fun count => decide (count.2 = maxCount) with
      | nil =>
          rw [firsts] at kept
          rw [kept.symm.eq_nil]
      | cons winner others =>
          rw [firsts] at kept
          cases seconds : (relayCounts crates conflict.sequence second).filter
              fun count => decide (count.2 = maxCount) with
          | nil =>
              rw [seconds] at kept
              cases kept.eq_nil
          | cons winner' others' =>
              rw [seconds] at kept
              dsimp only
              cases others with
              | nil =>
                  obtain ⟨rfl, rfl⟩ := List.cons.inj
                    (List.singleton_perm.mp kept)
                  rfl
              | cons other others =>
                  cases others' with
                  | nil => cases List.perm_singleton.mp kept
                  | cons other' others' => rfl

/-! The documented decision. -/

/-- The relays that validly speak for a candidate. -/
noncomputable def corroborators (conflict : NWayConflict)
    (candidate : CandidateEvidence RelayChainProof) : Nat :=
  (validRelays crates conflict.sequence candidate.observations
    candidate.messageId).ncard

/-- The evidence is for the candidates of the conflict, and `winner` is that
of the one entry that has enough relays and more than any other. -/
structure Wins (conflict : NWayConflict)
    (evidence : List (CandidateEvidence RelayChainProof))
    (winner : Bytes32) : Prop where
  listed : (evidence.map CandidateEvidence.messageId).Perm conflict.messageIds
  leads : ∃ before leader after, evidence = before ++ leader :: after ∧
    leader.messageId = winner ∧
    2 ≤ corroborators crates conflict leader ∧
    ∀ other ∈ before ++ after,
      corroborators crates conflict other <
        corroborators crates conflict leader

/-- The winner is returned and every other outcome is an error, whatever the
order of the evidence. -/
structure DecidesAsDocumented (conflict : NWayConflict)
    (evidence : List (CandidateEvidence RelayChainProof)) : Prop where
  ok : ∀ winner, resolveNwayConflict crates conflict evidence =
      some (.ok winner) ↔ Wins crates conflict evidence winner
  error : (∀ winner, ¬ Wins crates conflict evidence winner) →
    ∃ reason, resolveNwayConflict crates conflict evidence =
      some (.error (.unresolvedConflict reason))
  reordered : ∀ other : List (CandidateEvidence RelayChainProof),
    other.Perm evidence →
    resolveNwayConflict crates conflict other =
      resolveNwayConflict crates conflict evidence

theorem leads_of_wins {conflict : NWayConflict}
    {evidence : List (CandidateEvidence RelayChainProof)} {winner : Bytes32}
    (wins : Wins crates conflict evidence winner) :
    ∃ relays, Leads (relayCounts crates conflict.sequence evidence)
      (winner, relays) := by
  obtain ⟨before, leader, after, rfl, rfl, quorum, fewer⟩ := wins.leads
  refine ⟨corroborators crates conflict leader,
    (before ++ after).map fun candidate =>
      (candidate.messageId, corroborators crates conflict candidate),
    ?_, quorum, ?_⟩
  · rw [relayCounts_eq]
    exact List.perm_middle.map fun candidate =>
      (candidate.messageId, corroborators crates conflict candidate)
  · intro count among
    obtain ⟨other, member, rfl⟩ := List.mem_map.mp among
    exact fewer other member

theorem wins_of_ok {conflict : NWayConflict}
    {evidence : List (CandidateEvidence RelayChainProof)} {winner : Bytes32}
    (won : resolveNwayConflict crates conflict evidence =
      some (.ok winner)) : Wins crates conflict evidence winner := by
  constructor
  · by_contra others
    obtain ⟨reason, refused⟩ :=
      resolveNwayConflict_mismatched crates others
    rw [refused] at won
    cases won
  · simpa only [corroborators, card_countDistinctValidRelays] using
      resolveNwayConflict_winner crates won

/-- Every conflict is decided as documented, but the one without candidates
for which there is no evidence. -/
theorem resolveNwayConflict_documented_iff (conflict : NWayConflict)
    (evidence : List (CandidateEvidence RelayChainProof)) :
    DecidesAsDocumented crates conflict evidence ↔
      ¬ (conflict.messageIds = [] ∧ evidence = []) := by
  constructor
  · rintro documented ⟨empty, rfl⟩
    have panics : resolveNwayConflict crates conflict [] = none :=
      resolveNwayConflict_panics crates (by rw [empty]; rfl) empty
    have noWinner : ∀ winner, ¬ Wins crates conflict [] winner := by
      rintro winner ⟨-, before, leader, after, split, -⟩
      simp at split
    obtain ⟨reason, refused⟩ := documented.error noWinner
    rw [panics] at refused
    cases refused
  · intro candidates
    by_cases listed : (evidence.map CandidateEvidence.messageId).Perm
        conflict.messageIds
    · have nonempty : conflict.messageIds ≠ [] := by
        intro empty
        rw [empty] at listed
        exact candidates ⟨empty, List.map_eq_nil_iff.mp listed.eq_nil⟩
      obtain ⟨result, leading, decided, reports, leads⟩ :=
        resolveNwayConflict_matching crates listed nonempty
      refine ⟨?_, ?_, fun other perm =>
        resolveNwayConflict_of_perm crates conflict perm⟩
      · intro winner
        refine ⟨wins_of_ok crates, ?_⟩
        intro wins
        obtain ⟨relays, leader⟩ := leads_of_wins crates wins
        have named := (leads _).mpr leader
        rw [decided, (reports.eq_ok winner).mpr (by rw [named]; rfl)]
      · intro noWinner
        cases leading with
        | none =>
            obtain ⟨reason, refused⟩ := reports
            exact ⟨reason, by rw [decided, refused]⟩
        | some leader =>
            have won : resolveNwayConflict crates conflict evidence =
                some (.ok leader.1) := by
              rw [decided, (reports.eq_ok leader.1).mpr rfl]
            exact absurd (wins_of_ok crates won) (noWinner leader.1)
    · obtain ⟨reason, refused⟩ :=
        resolveNwayConflict_mismatched crates listed
      refine ⟨?_, fun _ => ⟨reason, refused⟩, fun other perm =>
        resolveNwayConflict_of_perm crates conflict perm⟩
      intro winner
      refine ⟨wins_of_ok crates, ?_⟩
      intro wins
      exact absurd wins.listed listed

end

/-- Evidence for every one of no candidates. -/
theorem resolveNwayConflict_empty_panics :
    resolveNwayConflict sampleRelayCrates ⟨"GA", 7, []⟩ [] = none :=
  resolveNwayConflict_panics sampleRelayCrates (List.Perm.refl []) rfl

end StellarConduit
