import Mathlib.Data.String.Basic
import SyncEngine.Data.HashMap
import SyncEngine.Data.SortedPairs
import SyncEngine.Errors

namespace StellarConduit

open Data

/-- Arrays are ordered as the lists of their bytes. -/
def Bytes32.rank (bytes : Bytes32) : List Nat := bytes.toVec.map UInt8.toNat

theorem Bytes32.rank_injective : Function.Injective Bytes32.rank := by
  intro first second same
  apply Bytes32.toVec_injective
  exact List.map_injective_iff.mpr (fun _ _ => UInt8.toNat_inj.mp) same

structure QueuedSlot where
  sourceAccount : String
  sequence : Int64
  messageId : Bytes32
  deriving DecidableEq

structure Conflict where
  sourceAccount : String
  sequence : Int64
  envelopeA : Bytes32
  envelopeB : Bytes32
  deriving DecidableEq

structure NWayConflict where
  sourceAccount : String
  sequence : Int64
  messageIds : List Bytes32
  deriving DecidableEq

def conflictsBetween (a b : QueuedSlot) : Option Conflict :=
  if a.sourceAccount ≠ b.sourceAccount ∨ a.sequence ≠ b.sequence then
    none
  else if a.messageId = b.messageId then
    none
  else
    some ⟨a.sourceAccount, a.sequence, a.messageId, b.messageId⟩

/-- The tuple that `detect_conflicts` sorts by. -/
def Conflict.key (conflict : Conflict) :
    String ×ₗ Int ×ₗ List Nat ×ₗ List Nat :=
  toLex (conflict.sourceAccount, toLex (conflict.sequence.toInt,
    toLex (conflict.envelopeA.rank, conflict.envelopeB.rank)))

/-- The tuple that `detect_nway_conflicts` sorts by. -/
def NWayConflict.key (conflict : NWayConflict) :
    String ×ₗ Int ×ₗ List (List Nat) :=
  toLex (conflict.sourceAccount, toLex (conflict.sequence.toInt,
    conflict.messageIds.map Bytes32.rank))

/-- The loop that fills `groups`, in both detectors. -/
def groupSlots (slots : List QueuedSlot) :
    HashMap (String × Int64) (List Bytes32) :=
  slots.foldl (fun groups slot => HashMap.pushEntry groups
    (slot.sourceAccount, slot.sequence) slot.messageId) ∅

/-- `ids.sort()` and `ids.dedup()` -/
def contenders (ids : List Bytes32) : List Bytes32 :=
  dedupRuns (sortBy Bytes32.rank ids)

def pairConflicts (sourceAccount : String) (sequence : Int64)
    (ids : List Bytes32) : List Conflict :=
  (allPairs ids).map fun pair =>
    ⟨sourceAccount, sequence, pair.1, pair.2⟩

def detectConflicts
    (iteration : HashMap.Iteration (String × Int64) (List Bytes32))
    (slots : List QueuedSlot) : List Conflict :=
  sortBy Conflict.key
    ((iteration.list (groupSlots slots)).entries.flatMap fun group =>
      pairConflicts group.1.1 group.1.2 (contenders group.2))

def detectNwayConflicts
    (iteration : HashMap.Iteration (String × Int64) (List Bytes32))
    (slots : List QueuedSlot) : List NWayConflict :=
  sortBy NWayConflict.key
    ((iteration.list (groupSlots slots)).entries.filterMap fun group =>
      let ids := contenders group.2
      if 2 ≤ ids.length then
        some ⟨group.1.1, group.1.2, ids⟩
      else
        none)

/-! What the groups hold. -/

theorem mem_contenders {ids : List Bytes32} {id : Bytes32} :
    id ∈ contenders ids ↔ id ∈ ids := by
  simp [contenders]

theorem increasing_contenders (ids : List Bytes32) :
    Increasing Bytes32.rank (contenders ids) :=
  increasing_dedupRuns Bytes32.rank_injective (pairwise_sortBy _ _)

theorem mem_group {slots : List QueuedSlot} {key : String × Int64}
    {ids : List Bytes32} (held : (groupSlots slots).lookup key = some ids)
    (id : Bytes32) : id ∈ ids ↔ ⟨key.1, key.2, id⟩ ∈ slots := by
  have collected := HashMap.lookup_foldl_pushEntry
    (fun slot : QueuedSlot => (slot.sourceAccount, slot.sequence))
    QueuedSlot.messageId slots ∅ key
  rw [← groupSlots, held] at collected
  simp only [Option.getD_some, Finmap.lookup_empty, Option.getD_none,
    List.nil_append] at collected
  rw [collected, List.mem_map]
  constructor
  · rintro ⟨slot, filtered, rfl⟩
    obtain ⟨member, same⟩ := List.mem_filter.mp filtered
    obtain rfl := of_decide_eq_true same
    exact member
  · intro member
    exact ⟨_, List.mem_filter.mpr ⟨member, by simp⟩, rfl⟩

theorem exists_group {slots : List QueuedSlot} {slot : QueuedSlot}
    (member : slot ∈ slots) :
    ∃ ids, (groupSlots slots).lookup (slot.sourceAccount, slot.sequence) =
      some ids := by
  have collected := HashMap.lookup_foldl_pushEntry
    (fun slot : QueuedSlot => (slot.sourceAccount, slot.sequence))
    QueuedSlot.messageId slots ∅ (slot.sourceAccount, slot.sequence)
  rw [← groupSlots] at collected
  cases held : (groupSlots slots).lookup
      (slot.sourceAccount, slot.sequence) with
  | some ids => exact ⟨ids, rfl⟩
  | none =>
      rw [held] at collected
      have present : slot.messageId ∈ (slots.filter fun other =>
          (other.sourceAccount, other.sequence) =
            (slot.sourceAccount, slot.sequence)).map QueuedSlot.messageId :=
        List.mem_map_of_mem (List.mem_filter.mpr ⟨member, by simp⟩)
      simp only [Option.getD_none, Finmap.lookup_empty, List.nil_append]
        at collected
      rw [← collected] at present
      simp at present

/-- Two envelopes compete for the slot that `conflict` names. -/
def Contested (slots : List QueuedSlot) (conflict : Conflict) : Prop :=
  conflict.envelopeA.rank < conflict.envelopeB.rank ∧
    ⟨conflict.sourceAccount, conflict.sequence, conflict.envelopeA⟩ ∈ slots ∧
    ⟨conflict.sourceAccount, conflict.sequence, conflict.envelopeB⟩ ∈ slots

theorem mem_pairConflicts {sourceAccount : String} {sequence : Int64}
    {ids : List Bytes32} {conflict : Conflict} :
    conflict ∈ pairConflicts sourceAccount sequence (contenders ids) ↔
      conflict.sourceAccount = sourceAccount ∧
        conflict.sequence = sequence ∧
        conflict.envelopeA ∈ ids ∧ conflict.envelopeB ∈ ids ∧
        conflict.envelopeA.rank < conflict.envelopeB.rank := by
  have pairs := mem_allPairs (increasing_contenders ids) conflict.envelopeA
    conflict.envelopeB
  rw [mem_contenders, mem_contenders] at pairs
  obtain ⟨account, number, a, b⟩ := conflict
  rw [← pairs, pairConflicts, List.mem_map]
  constructor
  · rintro ⟨pair, member, same⟩
    cases same
    exact ⟨rfl, rfl, member⟩
  · rintro ⟨rfl, rfl, member⟩
    exact ⟨(a, b), member, rfl⟩

/-- Some group of `slots` has `conflict` among its pairs. -/
theorem contested_iff_group {slots : List QueuedSlot} {conflict : Conflict} :
    Contested slots conflict ↔
      ∃ key ids, (groupSlots slots).lookup key = some ids ∧
        conflict ∈ pairConflicts key.1 key.2 (contenders ids) := by
  constructor
  · rintro ⟨ordered, first, second⟩
    obtain ⟨ids, held⟩ := exists_group first
    exact ⟨_, ids, held, mem_pairConflicts.mpr ⟨rfl, rfl,
      (mem_group held _).mpr first, (mem_group held _).mpr second, ordered⟩⟩
  · rintro ⟨key, ids, held, member⟩
    obtain ⟨account, sequence, first, second, ordered⟩ :=
      mem_pairConflicts.mp member
    rw [mem_group held] at first second
    rw [Contested, account, sequence]
    exact ⟨ordered, first, second⟩

theorem increasing_pairConflicts {ids : List Bytes32}
    (increasing : Increasing Bytes32.rank ids) (sourceAccount : String)
    (sequence : Int64) :
    Increasing Conflict.key (pairConflicts sourceAccount sequence ids) := by
  refine List.pairwise_map.mpr ((increasing_allPairs increasing).imp ?_)
  intro first second ordered
  exact Prod.Lex.toLex_lt_toLex.mpr (Or.inr ⟨rfl,
    Prod.Lex.toLex_lt_toLex.mpr (Or.inr ⟨rfl, ordered⟩)⟩)

theorem Conflict.key_injective : Function.Injective Conflict.key := by
  intro first second same
  obtain ⟨account, sequence, a, b⟩ := first
  obtain ⟨otherAccount, otherSequence, otherA, otherB⟩ := second
  simp only [Conflict.key, toLex_inj, Prod.mk.injEq, Int64.toInt_inj,
    Bytes32.rank_injective.eq_iff] at same
  obtain ⟨rfl, rfl, rfl, rfl⟩ := same
  rfl

theorem conflictsBetween_eq_some {a b : QueuedSlot} {conflict : Conflict} :
    conflictsBetween a b = some conflict ↔
      a = ⟨conflict.sourceAccount, conflict.sequence, conflict.envelopeA⟩ ∧
      b = ⟨conflict.sourceAccount, conflict.sequence, conflict.envelopeB⟩ ∧
      conflict.envelopeA ≠ conflict.envelopeB := by
  unfold conflictsBetween
  constructor
  · intro found
    split at found
    · cases found
    · rename_i sameSlot
      obtain ⟨account, sequence⟩ := not_or.mp sameSlot
      split at found
      · cases found
      · rename_i differ
        cases found
        refine ⟨rfl, ?_, differ⟩
        rw [not_not.mp account, not_not.mp sequence]
  · rintro ⟨rfl, rfl, differ⟩
    simp [differ]

/-- The same conflict, reported from the other envelope. -/
def Conflict.swapped (conflict : Conflict) : Conflict :=
  { conflict with
    envelopeA := conflict.envelopeB
    envelopeB := conflict.envelopeA }

theorem contested_or_swapped {slots : List QueuedSlot} {conflict : Conflict} :
    Contested slots conflict ∨ Contested slots conflict.swapped ↔
      conflict.envelopeA ≠ conflict.envelopeB ∧
        ⟨conflict.sourceAccount, conflict.sequence, conflict.envelopeA⟩ ∈
          slots ∧
        ⟨conflict.sourceAccount, conflict.sequence, conflict.envelopeB⟩ ∈
          slots := by
  constructor
  · rintro (⟨ordered, first, second⟩ | ⟨ordered, second, first⟩)
    · exact ⟨fun same => ordered.ne (congrArg Bytes32.rank same), first,
        second⟩
    · exact ⟨fun same => ordered.ne' (congrArg Bytes32.rank same), first,
        second⟩
  · rintro ⟨differ, first, second⟩
    have ranks : conflict.envelopeA.rank ≠ conflict.envelopeB.rank :=
      fun same => differ (Bytes32.rank_injective same)
    rcases lt_or_gt_of_ne ranks with below | above
    · exact Or.inl ⟨below, first, second⟩
    · exact Or.inr ⟨above, second, first⟩

section

variable (iteration : HashMap.Iteration (String × Int64) (List Bytes32))
  (slots : List QueuedSlot)

theorem mem_detectConflicts {conflict : Conflict} :
    conflict ∈ detectConflicts iteration slots ↔ Contested slots conflict := by
  rw [detectConflicts, mem_sortBy, contested_iff_group, List.mem_flatMap]
  constructor
  · rintro ⟨⟨key, ids⟩, listed, member⟩
    exact ⟨key, ids, (iteration.mem_entries _).mp listed, member⟩
  · rintro ⟨key, ids, held, member⟩
    exact ⟨⟨key, ids⟩, (iteration.mem_entries _).mpr held, member⟩

theorem increasing_detectConflicts :
    Increasing Conflict.key (detectConflicts iteration slots) := by
  apply increasing_sortBy Conflict.key_injective
  refine List.nodup_flatMap.mpr ⟨?_, ?_⟩
  · intro group _
    exact (increasing_pairConflicts (increasing_contenders _) _ _).nodup
  · refine (List.nodupKeys_iff_pairwise.mp
      (iteration.list (groupSlots slots)).nodupKeys).imp ?_
    intro first second differ conflict inFirst inSecond
    obtain ⟨account, sequence, _⟩ := mem_pairConflicts.mp inFirst
    obtain ⟨otherAccount, otherSequence, _⟩ := mem_pairConflicts.mp inSecond
    exact differ (Prod.ext (account.symm.trans otherAccount)
      (sequence.symm.trans otherSequence))

theorem countP_detectConflicts {conflict : Conflict}
    (found : conflict ∈ detectConflicts iteration slots) :
    (detectConflicts iteration slots).countP (fun other =>
      other = conflict ∨ other = conflict.swapped) = 1 := by
  have ordered := ((mem_detectConflicts iteration slots).mp found).1
  have notSwapped : conflict.swapped ∉ detectConflicts iteration slots :=
    fun member =>
      ((mem_detectConflicts iteration slots).mp member).1.asymm ordered
  rw [← List.count_eq_one_of_mem
    (increasing_detectConflicts iteration slots).nodup found]
  apply List.countP_congr
  intro other member
  have differs : other ≠ conflict.swapped := by
    rintro rfl
    exact notSwapped member
  simp [differs]

/-- `detect_conflicts` yields one conflict for every two envelopes that compete
for a slot, smaller id first, in an order that only the set of slots fixes. -/
theorem detectConflicts_exact :
    (∀ conflict, conflict ∈ detectConflicts iteration slots ↔
      conflict.envelopeA.rank < conflict.envelopeB.rank ∧
      ⟨conflict.sourceAccount, conflict.sequence, conflict.envelopeA⟩ ∈ slots ∧
      ⟨conflict.sourceAccount, conflict.sequence, conflict.envelopeB⟩ ∈
        slots) ∧
    (∀ sourceAccount sequence first second, first ≠ second →
      ⟨sourceAccount, sequence, first⟩ ∈ slots →
      ⟨sourceAccount, sequence, second⟩ ∈ slots →
      (detectConflicts iteration slots).countP (fun conflict =>
        conflict = ⟨sourceAccount, sequence, first, second⟩ ∨
          conflict = ⟨sourceAccount, sequence, second, first⟩) = 1) ∧
    (detectConflicts iteration slots).Pairwise
      (fun first second => first.key < second.key) ∧
    (∀ (other : HashMap.Iteration (String × Int64) (List Bytes32)) sameSlots,
      (∀ slot, slot ∈ sameSlots ↔ slot ∈ slots) →
      detectConflicts other sameSlots = detectConflicts iteration slots) ∧
    ∀ conflict,
      (conflict ∈ detectConflicts iteration slots ∨
        conflict.swapped ∈ detectConflicts iteration slots) ↔
      ∃ a ∈ slots, ∃ b ∈ slots, conflictsBetween a b = some conflict := by
  refine ⟨fun conflict => mem_detectConflicts iteration slots, ?_,
    increasing_detectConflicts iteration slots, ?_, ?_⟩
  · intro sourceAccount sequence first second differ inFirst inSecond
    let conflict : Conflict := ⟨sourceAccount, sequence, first, second⟩
    have competing :
        Contested slots conflict ∨ Contested slots conflict.swapped :=
      contested_or_swapped.mpr ⟨differ, inFirst, inSecond⟩
    rcases competing with found | found
    · exact countP_detectConflicts iteration slots
        ((mem_detectConflicts iteration slots).mpr found)
    · rw [← countP_detectConflicts iteration slots
        ((mem_detectConflicts iteration slots).mpr found)]
      apply List.countP_congr
      intro other _
      simp only [decide_eq_true_eq]
      exact or_comm
  · intro other sameSlots same
    refine (increasing_detectConflicts other sameSlots).ext
      (increasing_detectConflicts iteration slots) fun conflict => ?_
    simp only [mem_detectConflicts, Contested, same]
  · intro conflict
    rw [mem_detectConflicts, mem_detectConflicts, contested_or_swapped]
    constructor
    · rintro ⟨differ, first, second⟩
      exact ⟨_, first, _, second,
        conflictsBetween_eq_some.mpr ⟨rfl, rfl, differ⟩⟩
    · rintro ⟨a, first, b, second, found⟩
      obtain ⟨rfl, rfl, differ⟩ := conflictsBetween_eq_some.mp found
      exact ⟨differ, first, second⟩

/-! The groups of the other detector, and the pairs in them. -/

def NWayConflict.slot (conflict : NWayConflict) : String × Int64 :=
  (conflict.sourceAccount, conflict.sequence)

/-- `conflict` as the pairwise conflicts of its envelopes. -/
def NWayConflict.pairwise (conflict : NWayConflict) : List Conflict :=
  pairConflicts conflict.sourceAccount conflict.sequence conflict.messageIds

def SlotBefore (first second : String × Int64) : Prop :=
  first.1 < second.1 ∨ (first.1 = second.1 ∧ first.2.toInt < second.2.toInt)

theorem mem_detectNwayConflicts {conflict : NWayConflict} :
    conflict ∈ detectNwayConflicts iteration slots ↔
      ∃ key ids, (groupSlots slots).lookup key = some ids ∧
        2 ≤ (contenders ids).length ∧
        conflict = ⟨key.1, key.2, contenders ids⟩ := by
  rw [detectNwayConflicts, mem_sortBy, List.mem_filterMap]
  constructor
  · rintro ⟨⟨key, ids⟩, listed, found⟩
    obtain ⟨several, same⟩ := Option.ite_none_right_eq_some.mp found
    exact ⟨key, ids, (iteration.mem_entries _).mp listed, several,
      (Option.some_inj.mp same).symm⟩
  · rintro ⟨key, ids, held, several, rfl⟩
    exact ⟨⟨key, ids⟩, (iteration.mem_entries _).mpr held, if_pos several⟩

theorem slots_distinct_detectNwayConflicts :
    (detectNwayConflicts iteration slots).Pairwise
      fun first second => first.slot ≠ second.slot := by
  refine (sortBy_perm _ _).symm.pairwise ?_ fun differ => differ.symm
  refine List.pairwise_filterMap.mpr ((List.nodupKeys_iff_pairwise.mp
    (iteration.list (groupSlots slots)).nodupKeys).imp ?_)
  intro first second differ one oneFound other otherFound
  obtain ⟨_, oneIs⟩ := Option.ite_none_right_eq_some.mp oneFound
  obtain ⟨_, otherIs⟩ := Option.ite_none_right_eq_some.mp otherFound
  cases oneIs
  cases otherIs
  exact differ

theorem slotBefore_of_key_le {first second : NWayConflict}
    (ordered : first.key ≤ second.key) (differ : first.slot ≠ second.slot) :
    SlotBefore first.slot second.slot := by
  rcases Prod.Lex.toLex_le_toLex.mp ordered with account | ⟨account, inner⟩
  · exact Or.inl account
  · rcases Prod.Lex.toLex_le_toLex.mp inner with sequence | ⟨sequence, _⟩
    · exact Or.inr ⟨account, sequence⟩
    · have same : first.slot = second.slot :=
        Prod.ext account (Int64.toInt_inj.mp sequence)
      exact absurd same differ

theorem key_lt_of_slotBefore {first second : Conflict}
    (before : SlotBefore (first.sourceAccount, first.sequence)
      (second.sourceAccount, second.sequence)) :
    first.key < second.key := by
  apply Prod.Lex.toLex_lt_toLex.mpr
  rcases before with account | ⟨account, sequence⟩
  · exact Or.inl account
  · exact Or.inr ⟨account, Prod.Lex.toLex_lt_toLex.mpr (Or.inl sequence)⟩

theorem increasing_pairwise_detectNwayConflicts :
    Increasing Conflict.key
      ((detectNwayConflicts iteration slots).flatMap
        NWayConflict.pairwise) := by
  refine List.pairwise_flatMap.mpr ⟨?_, ?_⟩
  · intro conflict member
    obtain ⟨key, ids, _, _, rfl⟩ :=
      (mem_detectNwayConflicts iteration slots).mp member
    exact increasing_pairConflicts (increasing_contenders ids) _ _
  · refine ((pairwise_sortBy _ _).and
      (slots_distinct_detectNwayConflicts iteration slots)).imp ?_
    rintro group later ⟨ordered, differ⟩ first inGroup second inLater
    obtain ⟨pair, _, rfl⟩ := List.mem_map.mp inGroup
    obtain ⟨laterPair, _, rfl⟩ := List.mem_map.mp inLater
    exact key_lt_of_slotBefore (slotBefore_of_key_le ordered differ)

theorem mem_pairwise_detectNwayConflicts {conflict : Conflict} :
    conflict ∈ (detectNwayConflicts iteration slots).flatMap
        NWayConflict.pairwise ↔
      Contested slots conflict := by
  rw [contested_iff_group, List.mem_flatMap]
  constructor
  · rintro ⟨group, member, paired⟩
    obtain ⟨key, ids, held, _, rfl⟩ :=
      (mem_detectNwayConflicts iteration slots).mp member
    exact ⟨key, ids, held, paired⟩
  · rintro ⟨key, ids, held, paired⟩
    refine ⟨⟨key.1, key.2, contenders ids⟩,
      (mem_detectNwayConflicts iteration slots).mpr
        ⟨key, ids, held, ?_, rfl⟩, paired⟩
    -- fewer than two ids have no pair
    by_contra few
    obtain ⟨pair, member, _⟩ := List.mem_map.mp paired
    match contenders ids, few, member with
    | [], _, member => simp [allPairs] at member
    | [only], _, member => simp [allPairs] at member
    | first :: second :: rest, few, _ => simp at few

/-- Taken apart into pairs, the groups of `detect_nway_conflicts` are the list
of `detect_conflicts`, whatever the order that each visits its map in. -/
theorem detectNwayConflicts_pairwise
    (other : HashMap.Iteration (String × Int64) (List Bytes32)) :
    (detectNwayConflicts other slots).flatMap NWayConflict.pairwise =
      detectConflicts iteration slots ∧
    (∀ conflict ∈ detectNwayConflicts other slots,
      2 ≤ conflict.messageIds.length ∧
      conflict.messageIds.Pairwise
        fun first second => first.rank < second.rank) ∧
    ((detectNwayConflicts other slots).map NWayConflict.slot).Nodup := by
  refine ⟨?_, ?_, ?_⟩
  · refine (increasing_pairwise_detectNwayConflicts other slots).ext
      (increasing_detectConflicts iteration slots) fun conflict => ?_
    rw [mem_pairwise_detectNwayConflicts, mem_detectConflicts]
  · intro conflict member
    obtain ⟨key, ids, _, several, rfl⟩ :=
      (mem_detectNwayConflicts other slots).mp member
    exact ⟨several, increasing_contenders ids⟩
  · exact List.pairwise_map.mpr (slots_distinct_detectNwayConflicts other slots)

end

/-! Slots of one account and sequence. -/

theorem contenders_eq_self {ids : List Bytes32}
    (increasing : Increasing Bytes32.rank ids) : contenders ids = ids :=
  (increasing_contenders ids).ext increasing fun _ => mem_contenders

section

variable {slots : List QueuedSlot} {sourceAccount : String} {sequence : Int64}
  {ids : List Bytes32} (increasing : Increasing Bytes32.rank ids)
  (contested : ∀ slot, slot ∈ slots ↔
    ∃ id ∈ ids, slot = ⟨sourceAccount, sequence, id⟩)

include increasing contested

theorem detectConflicts_of_contested
    (iteration : HashMap.Iteration (String × Int64) (List Bytes32)) :
    detectConflicts iteration slots =
      pairConflicts sourceAccount sequence ids := by
  refine (increasing_detectConflicts iteration slots).ext
    (increasing_pairConflicts increasing _ _) fun conflict => ?_
  rw [mem_detectConflicts, Contested, contested, contested,
    ← contenders_eq_self increasing, mem_pairConflicts]
  simp only [mem_contenders]
  constructor
  · rintro ⟨ordered, ⟨first, inIds, sameFirst⟩, second, alsoInIds, sameSecond⟩
    cases sameFirst
    cases sameSecond
    exact ⟨rfl, rfl, inIds, alsoInIds, ordered⟩
  · rintro ⟨rfl, rfl, inIds, alsoInIds, ordered⟩
    exact ⟨ordered, ⟨_, inIds, rfl⟩, _, alsoInIds, rfl⟩

theorem detectNwayConflicts_of_contested (several : 2 ≤ ids.length)
    (iteration : HashMap.Iteration (String × Int64) (List Bytes32)) :
    detectNwayConflicts iteration slots =
      [⟨sourceAccount, sequence, ids⟩] := by
  have grouped {held : List Bytes32}
      (found : (groupSlots slots).lookup (sourceAccount, sequence) =
        some held) : contenders held = ids := by
    refine (increasing_contenders held).ext increasing fun id => ?_
    rw [mem_contenders, mem_group found, contested]
    constructor
    · rintro ⟨other, inIds, same⟩
      cases same
      exact inIds
    · intro inIds
      exact ⟨id, inIds, rfl⟩
  apply List.perm_singleton.mp
  have distinct : (detectNwayConflicts iteration slots).Nodup :=
    (slots_distinct_detectNwayConflicts iteration slots).imp
      fun differ same => differ (congrArg NWayConflict.slot same)
  rw [List.perm_ext_iff_of_nodup distinct (List.nodup_singleton _)]
  intro conflict
  rw [mem_detectNwayConflicts, List.mem_singleton]
  constructor
  · rintro ⟨key, held, found, enough, rfl⟩
    obtain ⟨id, member⟩ :=
      List.exists_mem_of_length_pos (by omega : 0 < (contenders held).length)
    have competing := (mem_group found id).mp (mem_contenders.mp member)
    obtain ⟨_, _, same⟩ := (contested _).mp competing
    obtain ⟨account, number⟩ := key
    cases same
    rw [grouped found]
  · rintro rfl
    obtain ⟨id, inIds⟩ :=
      List.exists_mem_of_length_pos (by omega : 0 < ids.length)
    have member := (contested ⟨sourceAccount, sequence, id⟩).mpr
      ⟨id, inIds, rfl⟩
    obtain ⟨held, found⟩ := exists_group member
    refine ⟨_, held, found, ?_, ?_⟩
    · rwa [grouped found]
    · rw [grouped found]

end

end StellarConduit
