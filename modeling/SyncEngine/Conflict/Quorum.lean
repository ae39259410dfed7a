import SyncEngine.Data.HashMap
import SyncEngine.Errors

namespace StellarConduit

open Data

inductive QuorumResult
  | resolved (candidate : Bytes32)
  | noQuorumReached
  | splitDecision
  deriving DecidableEq

/-- The tally is walked in the order that the seed of its hasher makes. -/
def resolveByQuorum (votes : List Bytes32)
    (quorumSize supermajorityThreshold : Nat)
    (hasher : HashMap.Iteration Bytes32 Nat) : QuorumResult :=
  if votes.length < quorumSize then .noQuorumReached
  else
    let counts := votes.foldl HashMap.incrementEntry ∅
    match (hasher.list counts).entries.find? fun entry =>
        supermajorityThreshold ≤ entry.2 with
    | some entry => .resolved entry.1
    | none => .splitDecision

theorem count_add_count_le {first second : Bytes32} (differ : first ≠ second)
    (votes : List Bytes32) :
    votes.count first + votes.count second ≤ votes.length := by
  induction votes with
  | nil => simp
  | cons vote rest induction =>
      rw [List.count_cons, List.count_cons, List.length_cons]
      by_cases forFirst : vote = first
      · subst forFirst
        simp [differ]
        omega
      · by_cases forSecond : vote = second
        · subst forSecond
          simp [forFirst]
          omega
        · simp [forFirst, forSecond]
          omega

variable {votes : List Bytes32} {quorumSize supermajorityThreshold : Nat}

theorem mem_tally (hasher : HashMap.Iteration Bytes32 Nat)
    {candidate : Bytes32} {count : Nat} :
    ⟨candidate, count⟩ ∈
        (hasher.list (votes.foldl HashMap.incrementEntry ∅)).entries ↔
      candidate ∈ votes ∧ votes.count candidate = count := by
  rw [HashMap.Iteration.mem_entries, HashMap.lookup_foldl_incrementEntry]
  by_cases voted : candidate ∈ votes
  · simp [voted]
  · simp [voted]

theorem resolveByQuorum_few (few : votes.length < quorumSize)
    (hasher : HashMap.Iteration Bytes32 Nat) :
    resolveByQuorum votes quorumSize supermajorityThreshold hasher =
      .noQuorumReached := by
  rw [resolveByQuorum, if_pos few]

theorem count_of_resolved {candidate : Bytes32}
    {hasher : HashMap.Iteration Bytes32 Nat}
    (resolved : resolveByQuorum votes quorumSize supermajorityThreshold
      hasher = .resolved candidate) :
    quorumSize ≤ votes.length ∧
      supermajorityThreshold ≤ votes.count candidate := by
  unfold resolveByQuorum at resolved
  split at resolved
  · cases resolved
  · rename_i enough
    dsimp only at resolved
    split at resolved
    · rename_i entry found
      obtain rfl : entry.1 = candidate := QuorumResult.resolved.inj resolved
      have reached := List.find?_some found
      have tallied := (mem_tally hasher).mp (List.mem_of_find?_eq_some found)
      rw [← tallied.2] at reached
      exact ⟨not_lt.mp enough, of_decide_eq_true reached⟩
    · cases resolved

theorem count_lt_of_split {hasher : HashMap.Iteration Bytes32 Nat}
    (undecided : resolveByQuorum votes quorumSize supermajorityThreshold
      hasher = .splitDecision) {candidate : Bytes32}
    (voted : candidate ∈ votes) :
    votes.count candidate < supermajorityThreshold := by
  unfold resolveByQuorum at undecided
  split at undecided
  · cases undecided
  · dsimp only at undecided
    split at undecided
    · cases undecided
    · rename_i none_found
      have short := List.find?_eq_none.mp none_found ⟨candidate, _⟩
        ((mem_tally hasher).mpr ⟨voted, rfl⟩)
      simpa using short

theorem resolveByQuorum_enough (enough : quorumSize ≤ votes.length)
    (hasher : HashMap.Iteration Bytes32 Nat) :
    resolveByQuorum votes quorumSize supermajorityThreshold hasher ≠
      .noQuorumReached := by
  rw [resolveByQuorum, if_neg (not_lt.mpr enough)]
  dsimp only
  split
  · simp
  · simp

/-- A candidate with enough votes is the answer in some order of iteration. -/
theorem exists_resolved {candidate : Bytes32}
    (enough : quorumSize ≤ votes.length) (voted : candidate ∈ votes)
    (reached : supermajorityThreshold ≤ votes.count candidate) :
    ∃ hasher, resolveByQuorum votes quorumSize supermajorityThreshold
      hasher = .resolved candidate := by
  have held : (votes.foldl HashMap.incrementEntry ∅).lookup candidate =
      some (votes.count candidate) := by
    rw [HashMap.lookup_foldl_incrementEntry, if_pos voted]
    simp
  obtain ⟨hasher, rest, first⟩ := HashMap.exists_iteration_first held
  refine ⟨hasher, ?_⟩
  rw [resolveByQuorum, if_neg (not_lt.mpr enough)]
  dsimp only
  rw [first, List.find?_cons, decide_eq_true reached]

theorem mem_of_count {candidate : Bytes32}
    (positive : 1 ≤ supermajorityThreshold)
    (reached : supermajorityThreshold ≤ votes.count candidate) :
    candidate ∈ votes :=
  List.count_pos_iff.mp (positive.trans reached)

/-! Whether the answer depends on the order of the votes or of the walk. -/

/-- Every order of the votes and of the walk gives the same answer. -/
def OneOutcome (votes : List Bytes32)
    (quorumSize supermajorityThreshold : Nat) : Prop :=
  ∃ result, ∀ reordered hasher, reordered.Perm votes →
    resolveByQuorum reordered quorumSize supermajorityThreshold hasher =
      result

def OneReaches (votes : List Bytes32) (supermajorityThreshold : Nat) : Prop :=
  ∀ first second, supermajorityThreshold ≤ votes.count first →
    supermajorityThreshold ≤ votes.count second → first = second

theorem oneReaches_of_length (few : votes.length < 2 * supermajorityThreshold) :
    OneReaches votes supermajorityThreshold := by
  intro first second firstReaches secondReaches
  by_contra differ
  have bounded := count_add_count_le differ votes
  omega

theorem oneOutcome_of_oneReaches (positive : 1 ≤ supermajorityThreshold)
    (enough : quorumSize ≤ votes.length)
    (one : OneReaches votes supermajorityThreshold) :
    OneOutcome votes quorumSize supermajorityThreshold := by
  by_cases reachable : ∃ candidate,
      supermajorityThreshold ≤ votes.count candidate
  · obtain ⟨candidate, reached⟩ := reachable
    refine ⟨.resolved candidate, ?_⟩
    intro reordered hasher perm
    have reorderedEnough : quorumSize ≤ reordered.length :=
      perm.length_eq ▸ enough
    cases answer : resolveByQuorum reordered quorumSize
        supermajorityThreshold hasher with
    | resolved other =>
        have otherReached := (count_of_resolved answer).2
        rw [perm.count_eq] at otherReached
        rw [one other candidate otherReached reached]
    | noQuorumReached =>
        exact absurd answer (resolveByQuorum_enough reorderedEnough hasher)
    | splitDecision =>
        have voted := perm.mem_iff.mpr (mem_of_count positive reached)
        have short := count_lt_of_split answer voted
        rw [perm.count_eq] at short
        omega
  · refine ⟨.splitDecision, ?_⟩
    intro reordered hasher perm
    cases answer : resolveByQuorum reordered quorumSize
        supermajorityThreshold hasher with
    | resolved other =>
        have otherReached := (count_of_resolved answer).2
        rw [perm.count_eq] at otherReached
        exact absurd ⟨other, otherReached⟩ reachable
    | noQuorumReached =>
        exact absurd answer
          (resolveByQuorum_enough (perm.length_eq ▸ enough) hasher)
    | splitDecision => rfl

theorem oneReaches_of_oneOutcome (positive : 1 ≤ supermajorityThreshold)
    (enough : quorumSize ≤ votes.length)
    (same : OneOutcome votes quorumSize supermajorityThreshold) :
    OneReaches votes supermajorityThreshold := by
  intro first second firstReaches secondReaches
  obtain ⟨result, answers⟩ := same
  obtain ⟨firstHasher, toFirst⟩ := exists_resolved enough
    (mem_of_count positive firstReaches) firstReaches
  obtain ⟨secondHasher, toSecond⟩ := exists_resolved enough
    (mem_of_count positive secondReaches) secondReaches
  rw [answers votes firstHasher (List.Perm.refl _)] at toFirst
  rw [answers votes secondHasher (List.Perm.refl _)] at toSecond
  exact QuorumResult.resolved.inj (toFirst.symm.trans toSecond)

theorem oneOutcome_iff (positive : 1 ≤ supermajorityThreshold) :
    OneOutcome votes quorumSize supermajorityThreshold ↔
      votes.length < quorumSize ∨
        OneReaches votes supermajorityThreshold := by
  by_cases few : votes.length < quorumSize
  · have answered : OneOutcome votes quorumSize supermajorityThreshold :=
      ⟨.noQuorumReached, fun _ hasher perm =>
        resolveByQuorum_few (perm.length_eq ▸ few) hasher⟩
    simp [few, answered]
  · have enough := not_lt.mp few
    simp only [few, false_or]
    exact ⟨oneReaches_of_oneOutcome positive enough,
      oneOutcome_of_oneReaches positive enough⟩

/-- `favouring` votes for the first candidate and the rest of `total` for the
second. -/
def splitVotes (first second : Bytes32) (favouring total : Nat) :
    List Bytes32 :=
  List.replicate favouring first ++
    List.replicate (total - favouring) second

theorem length_splitVotes (first second : Bytes32) {favouring total : Nat}
    (within : favouring ≤ total) :
    (splitVotes first second favouring total).length = total := by
  simp [splitVotes]
  omega

theorem count_splitVotes {first second : Bytes32} (differ : first ≠ second)
    (favouring total : Nat) :
    (splitVotes first second favouring total).count first = favouring ∧
      (splitVotes first second favouring total).count second =
        total - favouring := by
  simp [splitVotes, List.count_replicate, differ, differ.symm]

theorem exists_ne_candidate : ∃ first second : Bytes32, first ≠ second :=
  ⟨Vector.replicate 32 1, Vector.replicate 32 2, by decide⟩

/-- Orders agree on given votes exactly when there are too few of them or no
two candidates reach the threshold; they agree on all votes of a committee
exactly when it is too small, or smaller than twice the threshold. -/
theorem oneOutcome_exactly (quorumSize supermajorityThreshold : Nat)
    (decides : 1 ≤ quorumSize)
    (supermajority : 2 * quorumSize < 3 * supermajorityThreshold) :
    (∀ votes, OneOutcome votes quorumSize supermajorityThreshold ↔
      votes.length < quorumSize ∨
        ∀ first second, supermajorityThreshold ≤ votes.count first →
          supermajorityThreshold ≤ votes.count second → first = second) ∧
    (∀ committee,
      (∀ votes : List Bytes32, votes.length = committee →
        OneOutcome votes quorumSize supermajorityThreshold) ↔
      committee < quorumSize ∨ committee < 2 * supermajorityThreshold) := by
  have positive : 1 ≤ supermajorityThreshold := by omega
  refine ⟨fun votes => oneOutcome_iff positive, fun committee => ?_⟩
  constructor
  · intro always
    by_contra large
    have enough : quorumSize ≤ committee := by omega
    have room : 2 * supermajorityThreshold ≤ committee := by omega
    obtain ⟨first, second, differ⟩ := exists_ne_candidate
    have length := length_splitVotes first second
      (show supermajorityThreshold ≤ committee by omega)
    obtain ⟨forFirst, forSecond⟩ :=
      count_splitVotes differ supermajorityThreshold committee
    have one := oneReaches_of_oneOutcome positive (length.symm ▸ enough)
      (always _ length)
    exact differ (one first second (by omega) (by omega))
  · rintro small votes rfl
    exact (oneOutcome_iff positive).mpr
      (small.imp_right oneReaches_of_length)

theorem oneOutcome_exactly_ten :
    OneOutcome (splitVotes (Vector.replicate 32 1) (Vector.replicate 32 2)
      7 10) 10 7 :=
  ((oneOutcome_exactly 10 7 (by decide) (by decide)).2 10).mpr
    (Or.inr (by decide)) _ (by decide)

/-- Six votes where three suffice, three for either of two candidates. -/
theorem not_oneOutcome_six :
    1 ≤ 3 ∧ 2 * 3 < 3 * 3 ∧
      ¬OneOutcome (splitVotes (Vector.replicate 32 1) (Vector.replicate 32 2)
        3 6) 3 3 := by
  refine ⟨by decide, by decide, ?_⟩
  intro same
  have one := oneReaches_of_oneOutcome (by decide) (by decide) same
  exact absurd (one (Vector.replicate 32 1) (Vector.replicate 32 2)
    (by decide) (by decide)) (by decide)

/-! How many votes against a candidate can elect another. -/

def votesAgainst (candidate : Bytes32) (votes : List Bytes32) : Nat :=
  votes.countP fun vote => vote ≠ candidate

theorem count_le_votesAgainst {candidate other : Bytes32}
    (differ : other ≠ candidate) (votes : List Bytes32) :
    votes.count other ≤ votesAgainst candidate votes := by
  apply List.countP_mono_left
  intro vote _ same
  obtain rfl : vote = other := by simpa using same
  simpa using differ

theorem votesAgainst_splitVotes {candidate other : Bytes32}
    (differ : other ≠ candidate) (against total : Nat) :
    votesAgainst candidate (splitVotes other candidate against total) =
      against := by
  simp [votesAgainst, splitVotes, List.countP_replicate, differ]

/-- Fewer votes against a candidate than the threshold never elect another,
and no more votes than that are needed. -/
theorem resolveByQuorum_outvoted (quorumSize supermajorityThreshold : Nat)
    (decides : 1 ≤ quorumSize)
    (supermajority : 2 * quorumSize < 3 * supermajorityThreshold) :
    (∀ candidate votes hasher other,
      votesAgainst candidate votes < supermajorityThreshold →
      other ≠ candidate →
      resolveByQuorum votes quorumSize supermajorityThreshold hasher ≠
        .resolved other) ∧
    (∀ candidate votes hasher other,
      3 * votesAgainst candidate votes < quorumSize →
      other ≠ candidate →
      resolveByQuorum votes quorumSize supermajorityThreshold hasher ≠
        .resolved other) ∧
    (∀ candidate (votes : List Bytes32) hasher other,
      3 * votesAgainst candidate votes < votes.length →
      votes.length ≤ 3 * supermajorityThreshold → other ≠ candidate →
      resolveByQuorum votes quorumSize supermajorityThreshold hasher ≠
        .resolved other) ∧
    (∀ candidate other against total, other ≠ candidate →
      supermajorityThreshold ≤ against → against ≤ total →
      quorumSize ≤ total →
      ∃ votes hasher, votes.length = total ∧
        votesAgainst candidate votes = against ∧
        resolveByQuorum votes quorumSize supermajorityThreshold hasher =
          .resolved other) := by
  have outvoted (candidate : Bytes32) (votes : List Bytes32)
      (hasher : HashMap.Iteration Bytes32 Nat) (other : Bytes32)
      (few : votesAgainst candidate votes < supermajorityThreshold)
      (differ : other ≠ candidate) :
      resolveByQuorum votes quorumSize supermajorityThreshold hasher ≠
        .resolved other := by
    intro resolved
    have reached := (count_of_resolved resolved).2
    have bounded := count_le_votesAgainst differ votes
    omega
  refine ⟨outvoted, ?_, ?_, ?_⟩
  · intro candidate votes hasher other third differ
    exact outvoted candidate votes hasher other (by omega) differ
  · intro candidate votes hasher other third size differ
    exact outvoted candidate votes hasher other (by omega) differ
  · intro candidate other against total differ reached within enough
    have length := length_splitVotes other candidate within
    have forOther := (count_splitVotes differ against total).1
    have votesReach : supermajorityThreshold ≤
        (splitVotes other candidate against total).count other := by omega
    obtain ⟨hasher, resolved⟩ := exists_resolved (length ▸ enough)
      (mem_of_count (by omega) votesReach) votesReach
    exact ⟨_, hasher, length, votesAgainst_splitVotes differ against total,
      resolved⟩

theorem resolveByQuorum_outvoted_ten :
    let a : Bytes32 := Vector.replicate 32 1
    let b : Bytes32 := Vector.replicate 32 2
    ¬∃ hasher, resolveByQuorum (splitVotes b a 3 10) 10 7 hasher =
      .resolved b := by
  intro a b minority
  obtain ⟨hasher, resolved⟩ := minority
  exact (resolveByQuorum_outvoted 10 7 (by decide) (by decide)).1 a
    (splitVotes b a 3 10) hasher b (by decide) (by decide) resolved

/-- Three of ten votes elect a candidate where a quorum is three. -/
theorem resolveByQuorum_minority :
    let a : Bytes32 := Vector.replicate 32 1
    let b : Bytes32 := Vector.replicate 32 2
    let votes := splitVotes b a 3 10
    1 ≤ 3 ∧ 2 * 3 < 3 * 3 ∧ 3 * votesAgainst a votes < votes.length ∧
      b ≠ a ∧ ∃ hasher, resolveByQuorum votes 3 3 hasher = .resolved b := by
  intro a b votes
  exact ⟨by decide, by decide, by decide, by decide,
    exists_resolved (by decide) (by decide) (by decide)⟩

end StellarConduit
