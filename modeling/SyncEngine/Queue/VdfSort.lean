import SyncEngine.Data.Ranking
import SyncEngine.Queue.Priority
import SyncEngine.Queue.VdfOrdering

namespace StellarConduit

open Data

structure VdfOrderedEntry where
  envelopeId : Bytes32
  priority : TxPriority
  enqueuedAt : UInt64
  proof : Option VdfProof
  deriving DecidableEq

/-- The closure given to `sort_by`: what is less comes out first. -/
def dispatchCmp :
    Bool × VdfOrderedEntry → Bool × VdfOrderedEntry → Ordering
  | (firstVerified, first), (secondVerified, second) =>
      (compare second.priority first.priority).then
        ((compare secondVerified firstVerified).then
          ((compare first.enqueuedAt second.enqueuedAt).then
            (compare first.envelopeId second.envelopeId)))

instance : Std.TransCmp dispatchCmp :=
  have _tier : Std.TransCmp fun first second : Bool × VdfOrderedEntry =>
      compareOn (fun ranked => ranked.2.priority) second first :=
    Std.TransCmp.opposite
  have _evidence : Std.TransCmp fun first second : Bool × VdfOrderedEntry =>
      compareOn Prod.fst second first :=
    Std.TransCmp.opposite
  inferInstanceAs (Std.TransCmp (compareLex
    (fun first second : Bool × VdfOrderedEntry =>
      compareOn (fun ranked => ranked.2.priority) second first)
    (compareLex (fun first second => compareOn Prod.fst second first)
      (compareLex (compareOn fun ranked => ranked.2.enqueuedAt)
        (compareOn fun ranked => ranked.2.envelopeId)))))

section

/-! A verification that panics has no part in the order, so `verify` is any
function into the booleans. -/

variable (verify : VdfParams → Bytes → Bytes → VdfProof → Bool)
  (params : VdfParams) (epochSeed : Bytes)

def verified (entry : VdfOrderedEntry) : Bool :=
  entry.proof.any fun proof =>
    verify params epochSeed entry.envelopeId.toVec proof

def sortForDispatch (entries : List VdfOrderedEntry) : List VdfOrderedEntry :=
  let ranked := entries.map fun entry =>
    (verified verify params epochSeed entry, entry)
  (sortWith dispatchCmp ranked).map Prod.snd

end

namespace VdfOrderedEntry

/-- The order in which entries come out, given which of them have a proof that
verifies. -/
structure Precedes (evident : VdfOrderedEntry → Bool)
    (earlier later : VdfOrderedEntry) : Prop where
  tier : leq later.priority earlier.priority = true
  evidence : earlier.priority = later.priority →
    evident later = true → evident earlier = true
  time : earlier.priority = later.priority →
    evident earlier = evident later →
    earlier.enqueuedAt ≤ later.enqueuedAt
  id : earlier.priority = later.priority →
    evident earlier = evident later →
    earlier.enqueuedAt = later.enqueuedAt →
    compare earlier.envelopeId later.envelopeId = .lt

variable {evident : VdfOrderedEntry → Bool} {first second : VdfOrderedEntry}

theorem Precedes.asymm (below : Precedes evident first second) :
    ¬ Precedes evident second first := by
  intro above
  have tier : first.priority = second.priority :=
    Std.LawfulEqOrd.eq_of_compare
      (Std.OrientedCmp.isLE_antisymm above.tier below.tier)
  have evidence : evident first = evident second :=
    Bool.eq_iff_iff.mpr ⟨above.evidence tier.symm, below.evidence tier⟩
  have time : first.enqueuedAt = second.enqueuedAt :=
    UInt64.le_antisymm (below.time tier evidence)
      (above.time tier.symm evidence.symm)
  have lower := below.id tier evidence time
  have upper := above.id tier.symm evidence.symm time.symm
  rw [Std.OrientedOrd.eq_swap, upper] at lower
  cases lower

/-- The levels of the comparison, each for the ties of those before. -/
theorem levels_of_dispatchCmp
    (ordered : (dispatchCmp (evident first, first)
      (evident second, second)).isLE = true) :
    leq second.priority first.priority = true ∧
      (second.priority = first.priority →
        leq (evident second) (evident first) = true ∧
          (evident second = evident first →
            first.enqueuedAt ≤ second.enqueuedAt ∧
              (first.enqueuedAt = second.enqueuedAt →
                leq first.envelopeId second.envelopeId = true))) := by
  obtain ⟨tier, withinTier⟩ := isLE_of_then ordered
  refine ⟨tier, ?_⟩
  intro sameTier
  obtain ⟨evidence, withinEvidence⟩ := isLE_of_then (withinTier sameTier)
  refine ⟨evidence, ?_⟩
  intro sameEvidence
  obtain ⟨time, withinTime⟩ := isLE_of_then (withinEvidence sameEvidence)
  exact ⟨Std.isLE_compare.mp time, withinTime⟩

theorem precedes_of_dispatchCmp
    (differ : first.envelopeId ≠ second.envelopeId)
    (ordered : (dispatchCmp (evident first, first)
      (evident second, second)).isLE = true) :
    Precedes evident first second := by
  obtain ⟨tier, withinTier⟩ := levels_of_dispatchCmp ordered
  refine ⟨tier, ?_, ?_, ?_⟩
  · intro sameTier proven
    have evidence := (withinTier sameTier.symm).1
    rw [proven] at evidence
    cases known : evident first with
    | true => rfl
    | false =>
        rw [known] at evidence
        cases evidence
  · intro sameTier sameEvidence
    exact ((withinTier sameTier.symm).2 sameEvidence.symm).1
  · intro sameTier sameEvidence sameTime
    have id := ((withinTier sameTier.symm).2 sameEvidence.symm).2 sameTime
    rw [leq] at id
    cases compared : compare first.envelopeId second.envelopeId with
    | lt => rfl
    | eq => exact absurd (Std.LawfulEqOrd.eq_of_compare compared) differ
    | gt =>
        rw [compared] at id
        cases id

end VdfOrderedEntry

open VdfOrderedEntry

section

variable (verify : VdfParams → Bytes → Bytes → VdfProof → Bool)
  (params : VdfParams) (epochSeed : Bytes)

theorem sortForDispatch_eq (entries : List VdfOrderedEntry) :
    sortForDispatch verify params epochSeed entries =
      sortWith (fun first second =>
        dispatchCmp (verified verify params epochSeed first, first)
          (verified verify params epochSeed second, second)) entries := by
  simp only [sortForDispatch]
  rw [sortWith_map, List.map_map]
  exact List.map_id _

theorem sortForDispatch_perm (entries : List VdfOrderedEntry) :
    (sortForDispatch verify params epochSeed entries).Perm entries := by
  rw [sortForDispatch_eq]
  exact sortWith_perm _ _

theorem sorted_sortForDispatch (entries : List VdfOrderedEntry) :
    (sortForDispatch verify params epochSeed entries).Pairwise
      fun first second =>
        (dispatchCmp (verified verify params epochSeed first, first)
          (verified verify params epochSeed second, second)).isLE = true := by
  rw [sortForDispatch_eq]
  exact pairwise_sortWith_map dispatchCmp
    (fun entry => (verified verify params epochSeed entry, entry)) entries

theorem pairwise_sortForDispatch {entries : List VdfOrderedEntry}
    (distinct : (entries.map envelopeId).Nodup) :
    (sortForDispatch verify params epochSeed entries).Pairwise
      (Precedes (verified verify params epochSeed)) := by
  have perm := sortForDispatch_perm verify params epochSeed entries
  have apart := List.pairwise_map.mp
    ((perm.map envelopeId).nodup_iff.mpr distinct)
  have sorted := sorted_sortForDispatch verify params epochSeed entries
  exact sorted.imp₂ (fun _ _ ordered differ =>
    precedes_of_dispatchCmp differ ordered) apart

/-- The same entries in the same tiers come out in one order only. -/
theorem eq_of_precedes {evident : VdfOrderedEntry → Bool}
    {first second : List VdfOrderedEntry} (perm : first.Perm second)
    (firstSorted : first.Pairwise (Precedes evident))
    (secondSorted : second.Pairwise (Precedes evident)) : first = second := by
  refine List.Perm.eq_of_pairwise ?_ firstSorted secondSorted perm
  intro earlier later _ _ below above
  exact absurd above below.asymm

/-- Other proofs, or none, for the entries of one tier. -/
def reprove (tier : TxPriority)
    (change : VdfOrderedEntry → Option VdfProof)
    (entries : List VdfOrderedEntry) : List VdfOrderedEntry :=
  entries.map fun entry =>
    if entry.priority = tier then { entry with proof := change entry }
    else entry

theorem map_envelopeId_reprove (tier : TxPriority)
    (change : VdfOrderedEntry → Option VdfProof)
    (entries : List VdfOrderedEntry) :
    (reprove tier change entries).map envelopeId =
      entries.map envelopeId := by
  unfold reprove
  rw [List.map_map]
  apply List.map_congr_left
  intro entry _
  show (if entry.priority = tier then _ else entry).envelopeId = _
  split
  · rfl
  · rfl

def outside (tier : TxPriority) (entries : List VdfOrderedEntry) :
    List VdfOrderedEntry :=
  entries.filter fun entry => entry.priority ≠ tier

theorem outside_perm (tier : TxPriority) {first second : List VdfOrderedEntry}
    (perm : first.Perm second) :
    (outside tier first).Perm (outside tier second) :=
  perm.filter _

theorem outside_reprove (tier : TxPriority)
    (change : VdfOrderedEntry → Option VdfProof)
    (entries : List VdfOrderedEntry) :
    outside tier (reprove tier change entries) = outside tier entries := by
  induction entries with
  | nil => rfl
  | cons entry rest induction =>
      unfold outside reprove at *
      by_cases inTier : entry.priority = tier
      · simpa [inTier] using induction
      · simpa [inTier] using induction

/-- The order depends neither on how the entries are listed nor, in a tier, on
the proofs of another. -/
theorem sortForDispatch_canonical (entries : List VdfOrderedEntry)
    (distinct : (entries.map envelopeId).Nodup) :
    (∀ arrangement, arrangement.Perm entries →
      sortForDispatch verify params epochSeed arrangement =
        sortForDispatch verify params epochSeed entries) ∧
    (sortForDispatch verify params epochSeed entries).Perm entries ∧
    (sortForDispatch verify params epochSeed entries).Pairwise
      (Precedes (verified verify params epochSeed)) ∧
    ∀ tier change,
      outside tier (sortForDispatch verify params epochSeed
          (reprove tier change entries)) =
        outside tier (sortForDispatch verify params epochSeed entries) := by
  have perm := sortForDispatch_perm verify params epochSeed
  have sorted := pairwise_sortForDispatch verify params epochSeed distinct
  refine ⟨?_, perm entries, sorted, ?_⟩
  · intro arrangement same
    have apart := (same.map envelopeId).nodup_iff.mpr distinct
    exact eq_of_precedes
      ((perm arrangement).trans (same.trans (perm entries).symm))
      (pairwise_sortForDispatch verify params epochSeed apart) sorted
  · intro tier change
    have apart : ((reprove tier change entries).map envelopeId).Nodup := by
      rw [map_envelopeId_reprove]
      exact distinct
    have resorted := pairwise_sortForDispatch verify params epochSeed apart
    have kept := outside_perm tier (perm (reprove tier change entries))
    rw [outside_reprove] at kept
    exact eq_of_precedes
      (kept.trans (outside_perm tier (perm entries)).symm)
      (resorted.filter _) (sorted.filter _)

end

theorem sortForDispatch_canonical_sample :
    let verify (_ : VdfParams) (_ _ : Bytes) (proof : VdfProof) : Bool :=
      proof.output == 1
    let entry (number : UInt8) (priority : TxPriority)
        (proof : Option VdfProof) : VdfOrderedEntry :=
      ⟨Vector.replicate 32 number, priority, 100, proof⟩
    let entries := [entry 1 .normal none, entry 2 .normal (some ⟨1, 0⟩),
      entry 3 .emergency none]
    let sorted := sortForDispatch verify ⟨35, 300⟩ []
    (sorted entries).Perm entries ∧
      sorted entries.reverse = sorted entries := by
  intro verify entry entries sorted
  obtain ⟨same, perm, -, -⟩ := sortForDispatch_canonical verify ⟨35, 300⟩ []
    entries (by decide)
  exact ⟨perm, same _ (List.reverse_perm entries)⟩

end StellarConduit
