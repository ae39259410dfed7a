import Mathlib.Data.List.Induction
import SyncEngine.Data.SortedPairs

namespace StellarConduit.Data

/-! Maps kept in the order of their keys. `rank` says what that order is. -/

section

variable {κ ο ν : Type} [LinearOrder ο]

structure BTreeMap (rank : κ → ο) (ν : Type) where
  entries : List (κ × ν)
  increasing : Increasing (fun entry : κ × ν => rank entry.1) entries

end

namespace BTreeMap

variable {κ ο ν : Type} [LinearOrder ο] {rank : κ → ο}

def empty : BTreeMap rank ν := ⟨[], List.Pairwise.nil⟩

instance : EmptyCollection (BTreeMap rank ν) := ⟨empty⟩

@[simp] theorem entries_empty : (∅ : BTreeMap rank ν).entries = [] := rfl

theorem ext {first second : BTreeMap rank ν}
    (same : ∀ entry, entry ∈ first.entries ↔ entry ∈ second.entries) :
    first = second := by
  obtain ⟨entries, increasing⟩ := first
  obtain ⟨otherEntries, otherIncreasing⟩ := second
  obtain rfl := increasing.ext otherIncreasing same
  rfl

/-- One value at most stands under a key. -/
theorem value_eq (map : BTreeMap rank ν) {key : κ} {first second : ν}
    (held : (key, first) ∈ map.entries)
    (other : (key, second) ∈ map.entries) : first = second := by
  have distinct : (map.entries.map fun entry => rank entry.1).Nodup :=
    List.pairwise_map.mpr (map.increasing.imp fun below => below.ne)
  have same := List.inj_on_of_nodup_map distinct held other rfl
  exact congrArg Prod.snd same

def insert (map : BTreeMap rank ν) (key : κ) (value : ν) :
    BTreeMap rank ν where
  entries :=
    map.entries.filter (fun entry => rank entry.1 < rank key) ++
      (key, value) :: map.entries.filter fun entry => rank key < rank entry.1
  increasing := by
    have before := map.increasing.filter fun entry : κ × ν =>
      decide (rank entry.1 < rank key)
    have after := map.increasing.filter fun entry : κ × ν =>
      decide (rank key < rank entry.1)
    refine List.pairwise_append.mpr
      ⟨before, List.pairwise_cons.mpr ⟨?_, after⟩, ?_⟩
    · intro entry member
      exact of_decide_eq_true (List.mem_filter.mp member).2
    · intro entry member other later
      have below : rank entry.1 < rank key :=
        of_decide_eq_true (List.mem_filter.mp member).2
      rcases List.mem_cons.mp later with rfl | beyond
      · exact below
      · exact below.trans (of_decide_eq_true (List.mem_filter.mp beyond).2)

theorem mem_insert (injective : Function.Injective rank)
    {map : BTreeMap rank ν} {key : κ} {value : ν} {entry : κ × ν} :
    entry ∈ (map.insert key value).entries ↔
      entry = (key, value) ∨ entry ∈ map.entries ∧ entry.1 ≠ key := by
  have differs : entry.1 ≠ key ↔
      rank entry.1 < rank key ∨ rank key < rank entry.1 := by
    rw [← injective.ne_iff]
    exact lt_or_lt_iff_ne.symm
  simp only [insert, List.mem_append, List.mem_filter, List.mem_cons,
    decide_eq_true_eq, differs]
  tauto

def values (map : BTreeMap rank ν) : List ν := map.entries.map Prod.snd

variable [DecidableEq κ]

def lookup (map : BTreeMap rank ν) (key : κ) : Option ν :=
  (map.entries.find? fun entry => entry.1 = key).map Prod.snd

theorem lookup_eq_some {map : BTreeMap rank ν} {key : κ} {value : ν} :
    map.lookup key = some value ↔ (key, value) ∈ map.entries := by
  rw [lookup, Option.map_eq_some_iff]
  constructor
  · rintro ⟨⟨other, held⟩, found, rfl⟩
    have same := List.find?_some found
    obtain rfl : other = key := of_decide_eq_true same
    exact List.mem_of_find?_eq_some found
  · intro held
    cases found : map.entries.find? fun entry => entry.1 = key with
    | none =>
        have absent := List.find?_eq_none.mp found _ held
        simp at absent
    | some entry =>
        obtain ⟨other, kept⟩ := entry
        have same := List.find?_some found
        obtain rfl : other = key := of_decide_eq_true same
        exact ⟨_, rfl, map.value_eq (List.mem_of_find?_eq_some found) held⟩

theorem lookup_eq_none {map : BTreeMap rank ν} {key : κ} :
    map.lookup key = none ↔ ∀ entry ∈ map.entries, entry.1 ≠ key := by
  simp [lookup, List.find?_eq_none]

/-- `map.entry(key).or_insert(value)` -/
def orInsert (map : BTreeMap rank ν) (key : κ) (value : ν) :
    BTreeMap rank ν :=
  match map.lookup key with
  | some _ => map
  | none => map.insert key value

section

variable (injective : Function.Injective rank) {keyOf : ν → κ} {xs : List ν}
  (determined : ∀ x ∈ xs, ∀ y ∈ xs, keyOf x = keyOf y → x = y)

include injective determined

theorem mem_foldl_orInsert {entry : κ × ν} :
    entry ∈ (xs.foldl (fun map x => map.orInsert (keyOf x) x)
        (∅ : BTreeMap rank ν)).entries ↔
      ∃ x ∈ xs, entry = (keyOf x, x) := by
  induction xs using List.reverseRecOn generalizing entry with
  | nil => simp
  | append_singleton xs last induction =>
      have collected := @induction fun x inXs y inYs =>
        determined x (List.mem_append_left _ inXs) y
          (List.mem_append_left _ inYs)
      rw [List.foldl_append, List.foldl_cons, List.foldl_nil, orInsert]
      split
      · rename_i value held
        obtain ⟨x, listed, same⟩ := collected.mp (lookup_eq_some.mp held)
        obtain ⟨sameKey, rfl⟩ := Prod.mk.inj same
        obtain rfl := determined last (by simp) value (by simp [listed]) sameKey
        rw [collected]
        constructor
        · rintro ⟨x, member, rfl⟩
          exact ⟨x, List.mem_append_left _ member, rfl⟩
        · rintro ⟨x, member, rfl⟩
          rcases List.mem_append.mp member with before | final
          · exact ⟨x, before, rfl⟩
          · rw [List.mem_singleton.mp final]
            exact ⟨last, listed, rfl⟩
      · rename_i absent
        rw [mem_insert injective, collected]
        constructor
        · rintro (rfl | ⟨⟨x, listed, rfl⟩, _⟩)
          · exact ⟨last, by simp, rfl⟩
          · exact ⟨x, by simp [listed], rfl⟩
        · rintro ⟨x, listed, rfl⟩
          rcases List.mem_append.mp listed with before | final
          · refine Or.inr ⟨⟨x, before, rfl⟩, ?_⟩
            exact lookup_eq_none.mp absent _ (collected.mpr ⟨x, before, rfl⟩)
          · rw [List.mem_singleton.mp final]
            exact Or.inl rfl

/-- Values that their keys determine are all kept. -/
theorem mem_values_foldl_orInsert {x : ν} :
    x ∈ (xs.foldl (fun map x => map.orInsert (keyOf x) x)
        (∅ : BTreeMap rank ν)).values ↔ x ∈ xs := by
  rw [values, List.mem_map]
  constructor
  · rintro ⟨entry, member, rfl⟩
    obtain ⟨y, listed, rfl⟩ :=
      (mem_foldl_orInsert injective determined).mp member
    exact listed
  · intro listed
    exact ⟨(keyOf x, x), (mem_foldl_orInsert injective determined).mpr
      ⟨x, listed, rfl⟩, rfl⟩

end

end BTreeMap

end StellarConduit.Data
