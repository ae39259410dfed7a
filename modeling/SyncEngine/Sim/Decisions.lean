import SyncEngine.Conflict.Evidence
import SyncEngine.Data.Contest
import SyncEngine.Sim.World

namespace StellarConduit

open Data

/-! The groups of the n-way detector as the set of slots fixes them. -/

theorem NWayConflict.key_injective : Function.Injective NWayConflict.key := by
  intro first second same
  obtain ⟨account, sequence, ids⟩ := first
  obtain ⟨otherAccount, otherSequence, otherIds⟩ := second
  simp only [NWayConflict.key, toLex_inj, Prod.mk.injEq, Int64.toInt_inj,
    (List.map_injective_iff.mpr Bytes32.rank_injective).eq_iff] at same
  obtain ⟨rfl, rfl, rfl⟩ := same
  rfl

section

variable (iteration : HashMap.Iteration (String × Int64) (List Bytes32))
  {slots : List QueuedSlot}

/-- Every id that claims the slot of a group is in it. -/
theorem mem_detectNwayConflicts_iff {conflict : NWayConflict} :
    conflict ∈ detectNwayConflicts iteration slots ↔
      2 ≤ conflict.messageIds.length ∧
      Increasing Bytes32.rank conflict.messageIds ∧
      ∀ id, id ∈ conflict.messageIds ↔
        ⟨conflict.sourceAccount, conflict.sequence, id⟩ ∈ slots := by
  rw [mem_detectNwayConflicts]
  constructor
  · intro grouped
    obtain ⟨key, ids, held, several, rfl⟩ := grouped
    refine ⟨several, increasing_contenders ids, ?_⟩
    intro id
    rw [mem_contenders, mem_group held]
  · intro described
    obtain ⟨several, increasing, named⟩ := described
    obtain ⟨account, sequence, messageIds⟩ := conflict
    obtain ⟨id, among⟩ := List.exists_mem_of_length_pos
      (Nat.lt_of_lt_of_le Nat.zero_lt_two several)
    obtain ⟨ids, held⟩ := exists_group ((named id).mp among)
    have grouped : contenders ids = messageIds := by
      apply (increasing_contenders ids).ext increasing
      intro other
      rw [mem_contenders, mem_group held, named]
    exact ⟨_, ids, held, by rwa [grouped], by rw [grouped]⟩

theorem increasing_detectNwayConflicts :
    Increasing NWayConflict.key (detectNwayConflicts iteration slots) := by
  have distinct : (detectNwayConflicts iteration slots).Nodup :=
    (slots_distinct_detectNwayConflicts iteration slots).imp
      fun differ same => differ (congrArg NWayConflict.slot same)
  apply increasing_sortBy NWayConflict.key_injective
  exact (sortBy_perm _ _).nodup_iff.mp distinct

variable {same : List QueuedSlot}
  (alike : ∀ slot, slot ∈ slots ↔ slot ∈ same)

include alike

theorem detectConflicts_congr
    (other : HashMap.Iteration (String × Int64) (List Bytes32)) :
    detectConflicts iteration slots = detectConflicts other same := by
  apply (increasing_detectConflicts iteration slots).ext
    (increasing_detectConflicts other same)
  intro conflict
  simp only [mem_detectConflicts, Contested, alike]

theorem detectNwayConflicts_congr
    (other : HashMap.Iteration (String × Int64) (List Bytes32)) :
    detectNwayConflicts iteration slots = detectNwayConflicts other same := by
  apply (increasing_detectNwayConflicts iteration).ext
    (increasing_detectNwayConflicts other)
  intro conflict
  simp only [mem_detectNwayConflicts_iff, alike]

end

/-! What the two resolvers decide by. -/

theorem pairWinner_eq_first {first second : Bytes32} {m n : Nat}
    (differ : first ≠ second) :
    pairWinner first second m n = some first ↔ minQuorum ≤ m ∧ n < m := by
  unfold pairWinner
  split_ifs with firstWins secondWins
  · exact iff_of_true rfl firstWins
  · apply iff_of_false _ firstWins
    intro same
    exact differ (Option.some_inj.mp same).symm
  · exact iff_of_false (fun same => nomatch same) firstWins

/-- Who leads the vote is elected by its support. -/
theorem leads_iff_elected {ids : List Bytes32} {score : Bytes32 → Nat}
    (distinct : ids.Nodup) (id : Bytes32) (relays : Nat) :
    Leads (ids.map fun id => (id, score id)) (id, relays) ↔
      relays = score id ∧ Contest.Elected minQuorum score ids id := by
  constructor
  · intro leads
    obtain ⟨others, split, quorum, fewer⟩ := leads
    obtain ⟨leader, listed, same⟩ :=
      List.mem_map.mp (split.mem_iff.mpr List.mem_cons_self)
    cases same
    refine ⟨rfl, listed, quorum, ?_⟩
    intro other among differ
    have entry : (other, score other) ∈ (id, score id) :: others :=
      split.mem_iff.mp (List.mem_map.mpr ⟨other, among, rfl⟩)
    apply fewer (other, score other)
    apply (List.mem_cons.mp entry).resolve_left
    intro same
    exact differ (congrArg Prod.fst same)
  · intro elects
    obtain ⟨rfl, elected⟩ := elects
    refine ⟨(ids.erase id).map fun other => (other, score other), ?_,
      elected.enough, ?_⟩
    · exact (List.perm_cons_erase elected.listed).map _
    · intro entry among
      obtain ⟨other, left, rfl⟩ := List.mem_map.mp among
      obtain ⟨differ, listed⟩ := distinct.mem_erase_iff.mp left
      exact elected.most other listed differ

theorem SameDecision.eq_ok_iff {first second : Except SyncEngineError Bytes32}
    (agree : SameDecision first second) (winner : Bytes32) :
    first = .ok winner ↔ second = .ok winner := by
  obtain ⟨decision, firstReports, secondReports⟩ := agree
  rw [firstReports.eq_ok, secondReports.eq_ok]

theorem corroboration_perm {RelayChainProof VerifyingKey : Type}
    (crates : RelayCrates RelayChainProof VerifyingKey)
    {conflictSequence : Int64}
    {first second : List (CandidateEvidence RelayChainProof)}
    (perm : first.Perm second) (messageId : Bytes32) :
    (corroboration crates conflictSequence first messageId).Perm
      (corroboration crates conflictSequence second messageId) :=
  (perm.filter _).map _

namespace SimWorld

variable {RelayChainProof VerifyingKey : Type}
  (crates : RelayCrates RelayChainProof VerifyingKey)
  (world : SimWorld RelayChainProof)

def observationsFor (messageId : Bytes32) :
    List (RelayObservation RelayChainProof) :=
  world.devices.values.flatMap fun device =>
    (device.observations.lookup (hexEncode messageId)).getD []

def evidenceForPair (envelopeA envelopeB : Bytes32) (tsA tsB : UInt64) :
    ConflictEvidence RelayChainProof where
  envelopeATimestamp := tsA
  envelopeBTimestamp := tsB
  envelopeAObservations := world.observationsFor envelopeA
  envelopeBObservations := world.observationsFor envelopeB

/-! What the devices know, whichever of them knows it and how often. -/

def Holds (slot : QueuedSlot) : Prop :=
  ∃ device ∈ world.devices.values, slot ∈ device.slots

def Observed (messageId : Bytes32) (obs : RelayObservation RelayChainProof) :
    Prop :=
  ∃ device ∈ world.devices.values, ∃ batch,
    device.observations.lookup (hexEncode messageId) = some batch ∧
      obs ∈ batch

/-- An id stands for one slot, whichever device holds it. -/
def Determined : Prop :=
  ∀ first second, world.Holds first → world.Holds second →
    first.messageId = second.messageId → first = second

/-- The devices of two worlds know the same, taken together. -/
structure KnowsAlike (other : SimWorld RelayChainProof) : Prop where
  slots : ∀ slot, world.Holds slot ↔ other.Holds slot
  observed : ∀ messageId obs,
    world.Observed messageId obs ↔ other.Observed messageId obs

variable {world} {other : SimWorld RelayChainProof}

theorem mem_observationsFor {messageId : Bytes32}
    {obs : RelayObservation RelayChainProof} :
    obs ∈ world.observationsFor messageId ↔ world.Observed messageId obs := by
  rw [observationsFor, List.mem_flatMap]
  apply exists_congr
  intro device
  apply and_congr_right
  intro listed
  cases device.observations.lookup (hexEncode messageId) with
  | none => simp
  | some batch => simp

theorem mem_mergedSlots_iff (determined : world.Determined)
    (slot : QueuedSlot) : slot ∈ world.mergedSlots ↔ world.Holds slot := by
  rw [mem_mergedSlots, List.mem_flatMap]
  · rfl
  · intro first inFirst second inSecond sameId
    exact determined first second (List.mem_flatMap.mp inFirst)
      (List.mem_flatMap.mp inSecond) sameId

theorem KnowsAlike.determined (alike : world.KnowsAlike other)
    (determined : world.Determined) : other.Determined := by
  intro first second holdsFirst holdsSecond sameId
  exact determined first second ((alike.slots first).mpr holdsFirst)
    ((alike.slots second).mpr holdsSecond) sameId

theorem KnowsAlike.mergedSlots (alike : world.KnowsAlike other)
    (determined : world.Determined) (slot : QueuedSlot) :
    slot ∈ world.mergedSlots ↔ slot ∈ other.mergedSlots := by
  rw [mem_mergedSlots_iff determined,
    mem_mergedSlots_iff (alike.determined determined)]
  exact alike.slots slot

theorem KnowsAlike.validRelays (alike : world.KnowsAlike other)
    (sequence : Int64) (messageId : Bytes32) :
    validRelays crates sequence (world.observationsFor messageId) messageId =
      StellarConduit.validRelays crates sequence
        (other.observationsFor messageId) messageId := by
  ext relay
  simp only [mem_validRelays, mem_observationsFor, alike.observed]

/-! The decisions that follow from the evidence of a world. -/

section

variable (world) (times : Bytes32 → UInt64)

def verdict (conflict : Conflict) : Except SyncEngineError Bytes32 :=
  resolveConflict crates conflict (world.evidenceForPair conflict.envelopeA
    conflict.envelopeB (times conflict.envelopeA) (times conflict.envelopeB))

/-- The evidence for every candidate of a group. -/
def ballots (conflict : NWayConflict) :
    List (CandidateEvidence RelayChainProof) :=
  conflict.messageIds.map fun id => ⟨id, times id, world.observationsFor id⟩

/-- The relays that validly speak for what a slot holds. -/
def support (slot : QueuedSlot) : Nat :=
  (countDistinctValidRelays crates (world.observationsFor slot.messageId)
    slot.sequence slot.messageId).card

/-- The conflict of two slots is detected and decided for the first. -/
def Prevails (iteration : HashMap.Iteration (String × Int64) (List Bytes32))
    (winner loser : QueuedSlot) : Prop :=
  ∃ conflict ∈ detectConflicts iteration world.mergedSlots,
    (conflictsBetween winner loser = some conflict ∨
      conflictsBetween loser winner = some conflict) ∧
    world.verdict crates times conflict = .ok winner.messageId

end

variable {times times' : Bytes32 → UInt64}
  {iteration iteration' :
    HashMap.Iteration (String × Int64) (List Bytes32)}

theorem verdict_eq_ok {conflict : Conflict} {winner : Bytes32} :
    world.verdict crates times conflict = .ok winner ↔
      pairWinner conflict.envelopeA conflict.envelopeB
        (world.support crates ⟨conflict.sourceAccount, conflict.sequence,
          conflict.envelopeA⟩)
        (world.support crates ⟨conflict.sourceAccount, conflict.sequence,
          conflict.envelopeB⟩) = some winner :=
  (resolveConflict_reports crates conflict _).eq_ok winner

theorem verdict_same (alike : world.KnowsAlike other) (conflict : Conflict) :
    SameDecision (world.verdict crates times conflict)
      (other.verdict crates times' conflict) := by
  apply resolveConflict_same
  · exact alike.validRelays crates _ _
  · exact alike.validRelays crates _ _

/-- Of two slots that compete the one with the better support prevails, if it
has enough. -/
theorem prevails_iff {winner loser : QueuedSlot} :
    world.Prevails crates times iteration winner loser ↔
      winner ∈ world.mergedSlots ∧ loser ∈ world.mergedSlots ∧
      winner.sourceAccount = loser.sourceAccount ∧
      winner.sequence = loser.sequence ∧
      Contest.Beats minQuorum (world.support crates) winner loser := by
  obtain ⟨account, sequence, id⟩ := winner
  obtain ⟨loserAccount, loserSequence, loserId⟩ := loser
  constructor
  · intro prevails
    obtain ⟨conflict, detected, between, decided⟩ := prevails
    obtain ⟨-, inA, inB⟩ := (mem_detectConflicts _ _).mp detected
    rw [verdict_eq_ok] at decided
    rcases between with forward | backward
    · obtain ⟨isWinner, isLoser, differ⟩ :=
        conflictsBetween_eq_some.mp forward
      cases isWinner
      cases isLoser
      exact ⟨inA, inB, rfl, rfl, (pairWinner_eq_first differ).mp decided⟩
    · obtain ⟨isLoser, isWinner, differ⟩ :=
        conflictsBetween_eq_some.mp backward
      cases isWinner
      cases isLoser
      rw [pairWinner_comm] at decided
      exact ⟨inB, inA, rfl, rfl,
        (pairWinner_eq_first differ.symm).mp decided⟩
  · intro compete
    obtain ⟨inWinner, inLoser, sameAccount, sameSequence, beats⟩ := compete
    dsimp only at sameAccount sameSequence
    subst sameAccount
    subst sameSequence
    have differ : id ≠ loserId := by
      intro same
      subst same
      exact lt_irrefl _ beats.2
    rcases (@contested_or_swapped world.mergedSlots
      ⟨account, sequence, id, loserId⟩).mpr ⟨differ, inWinner, inLoser⟩ with
      forward | backward
    · refine ⟨_, (mem_detectConflicts _ _).mpr forward, Or.inl ?_, ?_⟩
      · exact conflictsBetween_eq_some.mpr ⟨rfl, rfl, differ⟩
      · rw [verdict_eq_ok]
        exact (pairWinner_eq_first differ).mpr beats
    · refine ⟨_, (mem_detectConflicts _ _).mpr backward, Or.inr ?_, ?_⟩
      · exact conflictsBetween_eq_some.mpr ⟨rfl, rfl, differ.symm⟩
      · rw [verdict_eq_ok, pairWinner_comm]
        exact (pairWinner_eq_first differ).mpr beats

theorem relayCounts_ballots (conflict : NWayConflict) :
    relayCounts crates conflict.sequence (world.ballots times conflict) =
      conflict.messageIds.map fun id => (id, world.support crates
        ⟨conflict.sourceAccount, conflict.sequence, id⟩) := by
  simp only [relayCounts, ballots, List.map_map, Function.comp_def, support]

theorem corroboration_ballots (alike : world.KnowsAlike other)
    (conflict : NWayConflict) (messageId : Bytes32) :
    corroboration crates conflict.sequence (world.ballots times conflict)
        messageId =
      corroboration crates conflict.sequence (other.ballots times' conflict)
        messageId := by
  simp only [corroboration, ballots, List.filter_map, List.map_map,
    Function.comp_def, alike.validRelays]

theorem resolveNwayConflict_elects {conflict : NWayConflict}
    (distinct : conflict.messageIds.Nodup) (nonempty : conflict.messageIds ≠ [])
    {candidates : List (CandidateEvidence RelayChainProof)}
    (gathered : candidates.Perm (world.ballots times conflict)) :
    ∃ result, resolveNwayConflict crates conflict candidates = some result ∧
      ∀ winner, result = .ok winner ↔
        Contest.Elected minQuorum (fun id => world.support crates
          ⟨conflict.sourceAccount, conflict.sequence, id⟩)
          conflict.messageIds winner := by
  have listed : (candidates.map CandidateEvidence.messageId).Perm
      conflict.messageIds := by
    have ids := gathered.map CandidateEvidence.messageId
    simpa [ballots, Function.comp_def] using ids
  have counted : (relayCounts crates conflict.sequence candidates).Perm
      (conflict.messageIds.map fun id => (id, world.support crates
        ⟨conflict.sourceAccount, conflict.sequence, id⟩)) := by
    rw [← relayCounts_ballots crates conflict]
    exact gathered.map _
  obtain ⟨result, leading, resolved, reports, leads⟩ :=
    resolveNwayConflict_matching crates listed nonempty
  refine ⟨result, resolved, ?_⟩
  intro winner
  rw [reports.eq_ok, Option.map_eq_some_iff]
  constructor
  · intro leader
    obtain ⟨⟨id, relays⟩, found, rfl⟩ := leader
    have voted := ((leads _).mp found).of_perm counted.symm
    exact ((leads_iff_elected distinct _ _).mp voted).2
  · intro elected
    have voted := (leads_iff_elected distinct winner _).mpr ⟨rfl, elected⟩
    exact ⟨_, (leads _).mpr (voted.of_perm counted), rfl⟩

/-- The vote on a detected group goes to the candidate that prevails over each
of the others, and to none if there is no such candidate. -/
theorem resolveNwayConflict_prevails {conflict : NWayConflict}
    (detected : conflict ∈ detectNwayConflicts iteration world.mergedSlots)
    {candidates : List (CandidateEvidence RelayChainProof)}
    (gathered : candidates.Perm (world.ballots times conflict)) :
    ∃ result, resolveNwayConflict crates conflict candidates = some result ∧
      ∀ winner, result = .ok winner ↔
        winner ∈ conflict.messageIds ∧
        ∀ rival ∈ conflict.messageIds, rival ≠ winner →
          world.Prevails crates times' iteration'
            ⟨conflict.sourceAccount, conflict.sequence, winner⟩
            ⟨conflict.sourceAccount, conflict.sequence, rival⟩ := by
  obtain ⟨several, increasing, named⟩ :=
    (mem_detectNwayConflicts_iff iteration).mp detected
  have nonempty : conflict.messageIds ≠ [] := by
    intro empty
    simp [empty] at several
  obtain ⟨result, resolved, elects⟩ := resolveNwayConflict_elects crates
    increasing.nodup nonempty gathered
  refine ⟨result, resolved, ?_⟩
  intro winner
  have beats_iff {first second : Bytes32}
      (firstIn : first ∈ conflict.messageIds)
      (secondIn : second ∈ conflict.messageIds) :
      world.Prevails crates times' iteration'
          ⟨conflict.sourceAccount, conflict.sequence, first⟩
          ⟨conflict.sourceAccount, conflict.sequence, second⟩ ↔
        Contest.Beats minQuorum (fun id => world.support crates
          ⟨conflict.sourceAccount, conflict.sequence, id⟩) first second := by
    rw [prevails_iff]
    constructor
    · intro prevails
      exact prevails.2.2.2.2
    · intro beats
      exact ⟨(named first).mp firstIn, (named second).mp secondIn, rfl, rfl,
        beats⟩
  rw [elects]
  constructor
  · intro elected
    refine ⟨elected.listed, ?_⟩
    intro rival among differ
    exact (beats_iff elected.listed among).mpr (elected.beats among differ)
  · intro prevails
    obtain ⟨listed, prevails⟩ := prevails
    -- a group has two candidates at the least, so that there is a rival
    have others : 0 < (conflict.messageIds.erase winner).length := by
      rw [List.length_erase_of_mem listed]
      omega
    obtain ⟨rival, left⟩ := List.exists_mem_of_length_pos others
    obtain ⟨differ, among⟩ := increasing.nodup.mem_erase_iff.mp left
    apply (Contest.elected_iff among differ).mpr
    refine ⟨listed, ?_⟩
    intro other otherIn apart
    exact (beats_iff listed otherIn).mp (prevails other otherIn apart)

/-- Two worlds whose devices know the same, taken together, detect the same
conflicts and decide each of them alike, whichever device knows what and how
often. The vote on a slot goes to the candidate that prevails over each of the
others, and to prevail never goes round in a circle. -/
theorem decisions_converge (determined : world.Determined)
    (alike : world.KnowsAlike other) :
    detectConflicts iteration world.mergedSlots =
      detectConflicts iteration' other.mergedSlots ∧
    detectNwayConflicts iteration world.mergedSlots =
      detectNwayConflicts iteration' other.mergedSlots ∧
    (∀ conflict, SameDecision (world.verdict crates times conflict)
      (other.verdict crates times' conflict)) ∧
    (∀ conflict ∈ detectNwayConflicts iteration world.mergedSlots,
      ∀ candidates candidates' : List (CandidateEvidence RelayChainProof),
        candidates.Perm (world.ballots times conflict) →
        candidates'.Perm (other.ballots times' conflict) →
        ∃ result result',
          resolveNwayConflict crates conflict candidates = some result ∧
          resolveNwayConflict crates conflict candidates' = some result' ∧
          SameDecision result result' ∧
          ∀ winner, result = .ok winner ↔
            winner ∈ conflict.messageIds ∧
            ∀ rival ∈ conflict.messageIds, rival ≠ winner →
              other.Prevails crates times' iteration'
                ⟨conflict.sourceAccount, conflict.sequence, winner⟩
                ⟨conflict.sourceAccount, conflict.sequence, rival⟩) ∧
    ∀ slot, ¬ Relation.TransGen
      (world.Prevails crates times iteration) slot slot := by
  have slots := alike.mergedSlots determined
  refine ⟨?_, ?_, ?_, ?_, ?_⟩
  · exact detectConflicts_congr iteration slots iteration'
  · exact detectNwayConflicts_congr iteration slots iteration'
  · intro conflict
    exact verdict_same crates alike conflict
  · intro conflict detected candidates candidates' gathered gathered'
    have detected' : conflict ∈
        detectNwayConflicts iteration' other.mergedSlots := by
      rwa [← detectNwayConflicts_congr iteration slots iteration']
    obtain ⟨result', resolved', wins⟩ := @resolveNwayConflict_prevails _ _
      crates other times' times' iteration' iteration' conflict detected'
      candidates' gathered'
    have voices (messageId : Bytes32) :
        (corroboration crates conflict.sequence candidates messageId).Perm
          (corroboration crates conflict.sequence candidates' messageId) := by
      apply (corroboration_perm crates gathered messageId).trans
      rw [corroboration_ballots crates alike]
      exact (corroboration_perm crates gathered' messageId).symm
    rcases resolveNwayConflict_same crates voices with decided | panicked
    · obtain ⟨result, second, resolved, again, agree⟩ := decided
      obtain rfl : second = result' :=
        Option.some_inj.mp (again.symm.trans resolved')
      refine ⟨result, second, resolved, resolved', agree, ?_⟩
      intro winner
      rw [agree.eq_ok_iff, wins]
    · rw [panicked.2.2] at resolved'
      cases resolved'
  · apply Contest.not_circular
    intro winner loser prevails
    exact ((prevails_iff crates).mp prevails).2.2.2.2

/-! One device that knows all, and two that know it between them. -/

section

variable (a b : Bytes32) (id : String) (slots : List QueuedSlot)
  (forA forB : List (RelayObservation SampleProof))

def knowing : SimDevice SampleProof where
  id := id
  slots := slots
  observations :=
    BTreeMap.insert (BTreeMap.insert ∅ (hexEncode a) forA) (hexEncode b) forB

theorem observed_knowing (apart : hexEncode a ≠ hexEncode b)
    (messageId : Bytes32) (obs : RelayObservation SampleProof) :
    (∃ batch, (knowing a b id slots forA forB).observations.lookup
        (hexEncode messageId) = some batch ∧ obs ∈ batch) ↔
      (hexEncode messageId = hexEncode a ∧ obs ∈ forA) ∨
        hexEncode messageId = hexEncode b ∧ obs ∈ forB := by
  simp only [knowing, BTreeMap.lookup_eq_some,
    BTreeMap.mem_insert Function.injective_id, BTreeMap.entries_empty,
    Prod.mk.injEq]
  grind

end

section

variable (a b : Bytes32)

def sampleWorld : SimWorld SampleProof :=
  let evidence := sampleEvidence a b
  (new "GA" 7).ensureDevice "x" fun _ =>
    knowing a b "x" [⟨"GA", 7, a⟩, ⟨"GA", 7, b⟩]
      evidence.envelopeAObservations evidence.envelopeBObservations

/-- Both devices hold one of the slots. -/
def splitWorld : SimWorld SampleProof :=
  let evidence := sampleEvidence a b
  ((new "GA" 7).ensureDevice "x" fun _ =>
      knowing a b "x" [⟨"GA", 7, b⟩] evidence.envelopeAObservations
        []).ensureDevice "y" fun _ =>
    knowing a b "y" [⟨"GA", 7, b⟩, ⟨"GA", 7, a⟩] []
      evidence.envelopeBObservations

variable {claim : SimDevice SampleProof → Prop}

theorem exists_sampleWorld :
    (∃ device ∈ (sampleWorld a b).devices.values, claim device) ↔
      claim (knowing a b "x" [⟨"GA", 7, a⟩, ⟨"GA", 7, b⟩]
        (sampleEvidence a b).envelopeAObservations
        (sampleEvidence a b).envelopeBObservations) := by
  simp [BTreeMap.values, sampleWorld, mem_ensureDevice, new]

theorem exists_splitWorld :
    (∃ device ∈ (splitWorld a b).devices.values, claim device) ↔
      claim (knowing a b "x" [⟨"GA", 7, b⟩]
        (sampleEvidence a b).envelopeAObservations []) ∨
      claim (knowing a b "y" [⟨"GA", 7, b⟩, ⟨"GA", 7, a⟩] []
        (sampleEvidence a b).envelopeBObservations) := by
  rw [or_comm]
  simp [BTreeMap.values, splitWorld, mem_ensureDevice, new]

variable {a b}

theorem determined_sampleWorld (differ : a ≠ b) :
    (sampleWorld a b).Determined := by
  have slot_eq (slot : QueuedSlot) (held : (sampleWorld a b).Holds slot) :
      slot = ⟨"GA", 7, a⟩ ∨ slot = ⟨"GA", 7, b⟩ := by
    rw [Holds, exists_sampleWorld] at held
    exact List.mem_pair.mp held
  intro first second holdsFirst holdsSecond sameId
  rcases slot_eq first holdsFirst with rfl | rfl
  · rcases slot_eq second holdsSecond with rfl | rfl
    · rfl
    · exact absurd sameId differ
  · rcases slot_eq second holdsSecond with rfl | rfl
    · exact absurd sameId.symm differ
    · rfl

theorem knowsAlike_splitWorld (apart : hexEncode a ≠ hexEncode b) :
    (sampleWorld a b).KnowsAlike (splitWorld a b) where
  slots slot := by
    rw [Holds, Holds, exists_sampleWorld, exists_splitWorld]
    simp only [knowing, List.mem_cons, List.not_mem_nil, or_false]
    grind
  observed messageId obs := by
    rw [Observed, Observed, exists_sampleWorld, exists_splitWorld]
    simp only [observed_knowing a b _ _ _ _ apart, List.not_mem_nil, and_false,
      or_false, false_or]

end

theorem decisions_converge_split :
    let a : Bytes32 := Vector.replicate 32 8
    let b : Bytes32 := Vector.replicate 32 9
    ∃ iteration,
      detectConflicts iteration (splitWorld a b).mergedSlots =
        detectConflicts iteration (sampleWorld a b).mergedSlots ∧
      (splitWorld a b).verdict sampleRelayCrates (fun _ => 0)
        ⟨"GA", 7, a, b⟩ = .ok a := by
  intro a b
  obtain ⟨iteration⟩ : Nonempty
    (HashMap.Iteration (String × Int64) (List Bytes32)) := inferInstance
  have differ : a ≠ b := by decide
  have apart : hexEncode a ≠ hexEncode b := by decide
  obtain ⟨conflicts, -, verdicts, -⟩ := @decisions_converge _ _
    sampleRelayCrates (sampleWorld a b) (splitWorld a b) (fun _ => 0)
    (fun _ => 0) iteration iteration (determined_sampleWorld differ)
    (knowsAlike_splitWorld apart)
  refine ⟨iteration, conflicts.symm, ?_⟩
  apply ((verdicts _).eq_ok_iff a).mp
  rw [verdict_eq_ok]
  decide +kernel

end SimWorld

end StellarConduit
