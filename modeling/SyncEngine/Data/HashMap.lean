import Mathlib.Data.Finmap

namespace StellarConduit.Data

/-! Hash maps up to iteration order. Two maps are equal exactly when they hold
the same value, or none, under every key. -/

abbrev HashMap (κ ν : Type) := Finmap fun _ : κ => ν

namespace HashMap

variable {κ ν : Type} [DecidableEq κ]

theorem lookup_insert_ite (map : HashMap κ ν) (key other : κ) (value : ν) :
    (map.insert key value).lookup other =
      if other = key then some value else map.lookup other := by
  by_cases same : other = key
  · subst same
    simp
  · simp [Finmap.lookup_insert_of_ne, same]

theorem lookup_of_lookup_erase {map : HashMap κ ν} {key other : κ} {value : ν}
    (found : (map.erase key).lookup other = some value) :
    map.lookup other = some value := by
  by_cases same : other = key
  · subst same
    simp at found
  · rwa [Finmap.lookup_erase_ne same] at found

theorem insert_eq_self {map : HashMap κ ν} {key : κ} {value : ν}
    (held : map.lookup key = some value) : map.insert key value = map := by
  apply Finmap.ext_lookup
  intro other
  rw [lookup_insert_ite]
  by_cases same : other = key
  · subst same
    simp [held]
  · simp [same]

theorem insert_eq_self_iff {map : HashMap κ ν} {key : κ} {value : ν} :
    map.insert key value = map ↔ map.lookup key = some value := by
  refine ⟨fun same => ?_, insert_eq_self⟩
  rw [← same, Finmap.lookup_insert]

theorem insert_insert_eq_self {map : HashMap κ ν} {key : κ} {value other : ν}
    (held : map.lookup key = some value) :
    (map.insert key other).insert key value = map := by
  rw [Finmap.insert_insert]
  exact insert_eq_self held

/-- `map.retain(|key, value| keep(key, value))` -/
def retain (keep : κ → ν → Bool) (map : HashMap κ ν) : HashMap κ ν where
  entries := map.entries.filter fun entry => keep entry.1 entry.2
  nodupKeys := by
    apply Multiset.nodup_keys.mp
    exact Multiset.nodup_of_le
      (Multiset.map_le_map (Multiset.filter_le _ map.entries))
      (Multiset.nodup_keys.mpr map.nodupKeys)

theorem lookup_retain (keep : κ → ν → Bool) (map : HashMap κ ν) (key : κ) :
    (map.retain keep).lookup key = (map.lookup key).filter (keep key) := by
  apply Option.ext
  intro value
  simp only [Finmap.lookup_eq_some_iff, retain, Multiset.mem_filter,
    Option.filter_eq_some_iff]

/-- `map.len()` -/
def len (map : HashMap κ ν) : Nat := map.keys.card

omit [DecidableEq κ] in
@[simp] theorem len_empty : len (∅ : HashMap κ ν) = 0 := rfl

theorem mem_keys_iff {map : HashMap κ ν} {key : κ} :
    key ∈ map.keys ↔ ∃ value, map.lookup key = some value := by
  rw [Finmap.mem_keys, Finmap.mem_iff]

theorem len_insert_le (map : HashMap κ ν) (key : κ) (value : ν) :
    len (map.insert key value) ≤ len map + 1 := by
  have keys : (map.insert key value).keys = insert key map.keys := by
    ext other
    simp [Finmap.mem_keys]
  rw [len, keys]
  exact Finset.card_insert_le key map.keys

theorem len_erase_le (map : HashMap κ ν) (key : κ) :
    len (map.erase key) ≤ len map := by
  rw [len, Finmap.keys_erase]
  exact Finset.card_erase_le

theorem len_retain_le (keep : κ → ν → Bool) (map : HashMap κ ν) :
    len (map.retain keep) ≤ len map := by
  apply Finset.card_le_card
  intro key member
  obtain ⟨value, found⟩ := mem_keys_iff.mp member
  rw [lookup_retain, Option.filter_eq_some_iff] at found
  exact mem_keys_iff.mpr ⟨value, found.1⟩

/-! A listing is one order in which an iteration or a table scan may visit
the entries of a map. -/

abbrev Listing (κ ν : Type) := AList fun _ : κ => ν

theorem foldl_insert_lookup (entries : List (Sigma fun _ : κ => ν))
    (nodup : entries.NodupKeys) (map : HashMap κ ν) (key : κ) :
    (entries.foldl (fun acc entry => acc.insert entry.1 entry.2) map).lookup
        key =
      (entries.dlookup key).or (map.lookup key) := by
  induction entries generalizing map with
  | nil => simp
  | cons entry rest induction =>
      obtain ⟨headKey, value⟩ := entry
      have headFresh : headKey ∉ rest.keys := (List.nodupKeys_cons.mp nodup).1
      rw [List.foldl_cons, induction (List.nodupKeys_cons.mp nodup).2,
        lookup_insert_ite]
      by_cases same : key = headKey
      · subst same
        simp [List.dlookup_eq_none.mpr headFresh, List.dlookup_cons_eq]
      · rw [List.dlookup_cons_ne rest ⟨headKey, value⟩ same]
        simp [same]

theorem foldl_insert_listing (listing : Listing κ ν) :
    listing.entries.foldl (fun acc entry => acc.insert entry.1 entry.2)
        (∅ : HashMap κ ν) =
      listing.toFinmap := by
  apply Finmap.ext_lookup
  intro key
  rw [foldl_insert_lookup _ listing.nodupKeys]
  simp [AList.lookup]

/-- A choice of one listing of every map, as a hasher's seed makes it. -/
structure Iteration (κ ν : Type) where
  list : HashMap κ ν → Listing κ ν
  lists : ∀ map, (list map).toFinmap = map

instance : Nonempty (Iteration κ ν) := by
  have listed (map : HashMap κ ν) :
      ∃ listing : Listing κ ν, listing.toFinmap = map :=
    Finmap.induction_on map fun listing => ⟨listing, rfl⟩
  choose list lists using listed
  exact ⟨⟨list, lists⟩⟩

theorem Iteration.mem_entries (iteration : Iteration κ ν) (map : HashMap κ ν)
    {key : κ} {value : ν} :
    ⟨key, value⟩ ∈ (iteration.list map).entries ↔
      map.lookup key = some value := by
  rw [← AList.mem_lookup_iff, Option.mem_def, ← Finmap.lookup_toFinmap,
    iteration.lists]

/-- Any entry of a map may be the first that an iteration visits. -/
theorem exists_iteration_first {map : HashMap κ ν} {key : κ} {value : ν}
    (held : map.lookup key = some value) :
    ∃ (iteration : Iteration κ ν) (rest : List (Sigma fun _ : κ => ν)),
      (iteration.list map).entries = ⟨key, value⟩ :: rest := by
  classical
  obtain ⟨given⟩ : Nonempty (Iteration κ ν) := inferInstance
  have lists (other : HashMap κ ν) :
      (if other = map then (given.list other).insert key value
        else given.list other).toFinmap = other := by
    split
    · rename_i same
      subst same
      rw [← Finmap.insert_toFinmap, given.lists]
      exact insert_eq_self held
    · exact given.lists other
  refine ⟨⟨_, lists⟩, (given.list map).entries.kerase key, ?_⟩
  dsimp only
  rw [if_pos rfl, AList.entries_insert]

/-- A map that holds related values under the same keys as `scan`, listed in
the order of `scan`. -/
theorem exists_listing_forall₂ {ω : Type} (related : ν → ω → Prop)
    (scan : Listing κ ν) (map : HashMap κ ω)
    (held : ∀ key, Option.Rel related (scan.lookup key) (map.lookup key)) :
    ∃ listing : Listing κ ω, listing.toFinmap = map ∧
      List.Forall₂ (fun first second =>
        first.1 = second.1 ∧ related first.2 second.2)
        scan.entries listing.entries := by
  obtain ⟨entries, nodup⟩ := scan
  induction entries generalizing map with
  | nil =>
      refine ⟨∅, ?_, List.Forall₂.nil⟩
      apply Finmap.ext_lookup
      intro key
      have absent := held key
      simp only [AList.lookup, List.dlookup_nil] at absent
      cases found : map.lookup key with
      | none => simp
      | some value => rw [found] at absent; cases absent
  | cons entry rest induction =>
      obtain ⟨key, value⟩ := entry
      obtain ⟨fresh, distinct⟩ := List.nodupKeys_cons.mp nodup
      have first := held key
      simp only [AList.lookup, List.dlookup_cons_eq] at first
      cases found : map.lookup key with
      | none => rw [found] at first; cases first
      | some stored =>
          rw [found] at first
          obtain ⟨listing, listed, matched⟩ :=
            induction (map.erase key) distinct (by
              intro other
              have whole := held other
              by_cases same : other = key
              · subst same
                simp only [AList.lookup, Finmap.lookup_erase,
                  List.dlookup_eq_none.mpr fresh]
                exact Option.Rel.none
              · simpa [AList.lookup, same, Finmap.lookup_erase_ne,
                  List.dlookup_cons_ne rest ⟨key, value⟩ same] using whole)
          have absent : key ∉ listing := by
            rw [← Finmap.mem_toFinmap, listed]
            simp
          refine ⟨listing.insert key stored, ?_, ?_⟩
          · rw [← Finmap.insert_toFinmap, listed]
            apply Finmap.ext_lookup
            intro other
            rw [lookup_insert_ite]
            by_cases same : other = key
            · subst same
              simp [found]
            · simp [same, Finmap.lookup_erase_ne]
          · rw [AList.insert_of_notMem absent]
            cases first with
            | some pair => exact List.Forall₂.cons ⟨rfl, pair⟩ matched

/-- `*counts.entry(key).or_insert(0) += 1` -/
def incrementEntry (map : HashMap κ Nat) (key : κ) : HashMap κ Nat :=
  map.insert key ((map.lookup key).getD 0 + 1)

/-- Counting a list gives every member its number of occurrences, and has no
entry for anything else. -/
theorem lookup_foldl_incrementEntry [BEq κ] [LawfulBEq κ] (keys : List κ)
    (map : HashMap κ Nat) (wanted : κ) :
    (keys.foldl incrementEntry map).lookup wanted =
      if wanted ∈ keys then
        some ((map.lookup wanted).getD 0 + keys.count wanted)
      else map.lookup wanted := by
  induction keys generalizing map with
  | nil => simp
  | cons key rest induction =>
      rw [List.foldl_cons, induction, incrementEntry, lookup_insert_ite]
      by_cases same : wanted = key
      · subst same
        by_cases again : wanted ∈ rest
        · simp only [again, if_true, Option.getD_some, List.mem_cons,
            true_or, List.count_cons_self, Option.some_inj]
          omega
        · simp [again, List.count_eq_zero_of_not_mem again]
      · simp [same, Ne.symm same]

/-- `entry(key).or_default().push(value)` -/
def pushEntry (map : HashMap κ (List ν)) (key : κ) (value : ν) :
    HashMap κ (List ν) :=
  map.insert key ((map.lookup key).getD [] ++ [value])

/-- Grouping by a key collects the values in the order they come in. -/
theorem lookup_foldl_pushEntry {α : Type} (key : α → κ) (value : α → ν)
    (xs : List α) (map : HashMap κ (List ν)) (wanted : κ) :
    ((xs.foldl (fun groups x => pushEntry groups (key x) (value x))
        map).lookup wanted).getD [] =
      (map.lookup wanted).getD [] ++
        (xs.filter fun x => key x = wanted).map value := by
  induction xs generalizing map with
  | nil => simp
  | cons x rest induction =>
      rw [List.foldl_cons, induction, pushEntry, lookup_insert_ite]
      by_cases same : key x = wanted
      · subst same
        simp
      · simp [same, Ne.symm same]

end HashMap

end StellarConduit.Data
