import SyncEngine.Data.HashMap

namespace StellarConduit.Data

/-! Tables of rows with an id, and inserts that a primary key may refuse. -/

section

variable {α ε : Type} (id : α → Int)

/-- The next id of a column that increments itself, where no id used before is
larger than those present. -/
def nextId (rows : List α) : Int :=
  rows.foldl (fun largest row => max largest (id row)) 0 + 1

theorem le_foldl_max (rows : List α) (start : Int) :
    start ≤ rows.foldl (fun largest row => max largest (id row)) start ∧
      ∀ row ∈ rows,
        id row ≤
          rows.foldl (fun largest row => max largest (id row)) start := by
  induction rows generalizing start with
  | nil => simp
  | cons first rest induction =>
      obtain ⟨above, members⟩ := induction (max start (id first))
      simp only [List.foldl_cons, List.forall_mem_cons]
      exact ⟨le_trans (le_max_left _ _) above,
        le_trans (le_max_right _ _) above, members⟩

variable {rows : List α} {row : α}

theorem lt_nextId (member : row ∈ rows) : id row < nextId id rows :=
  Int.lt_add_one_of_le ((le_foldl_max id rows 0).2 row member)

/-- No two rows have one id. -/
def DistinctIds (rows : List α) : Prop :=
  (rows.map id).Nodup

variable {id}

theorem DistinctIds.nil : DistinctIds id [] := List.nodup_nil

theorem DistinctIds.snoc (distinct : DistinctIds id rows)
    (fresh : id row ∉ rows.map id) : DistinctIds id (rows ++ [row]) := by
  rw [DistinctIds, List.map_append, List.nodup_append]
  refine ⟨distinct, List.nodup_singleton _, ?_⟩
  intro taken held other single same
  obtain rfl := List.mem_singleton.mp single
  exact fresh (same ▸ held)

/-- The next id is a fresh one. -/
theorem DistinctIds.snoc_nextId (distinct : DistinctIds id rows)
    (next : id row = nextId id rows) : DistinctIds id (rows ++ [row]) := by
  apply distinct.snoc
  intro taken
  obtain ⟨other, member, same⟩ := List.mem_map.mp taken
  exact absurd (lt_nextId id member) (by simp [same, next])

variable (id)

/-- `INSERT` of a row with its id. -/
def insertRow (refusal : ε) (rows : List α) (row : α) : Except ε (List α) :=
  if id row ∈ rows.map id then .error refusal else .ok (rows ++ [row])

variable {id}

theorem foldlM_insertRow {refusal : ε} {new : List α}
    (distinct : DistinctIds id (rows ++ new)) :
    new.foldlM (insertRow id refusal) rows = .ok (rows ++ new) := by
  induction new generalizing rows with
  | nil => simp [pure, Except.pure]
  | cons first rest induction =>
      have regrouped : rows ++ first :: rest = rows ++ [first] ++ rest := by
        simp
      have fresh : id first ∉ rows.map id := by
        rw [DistinctIds, List.map_append, List.nodup_append] at distinct
        intro taken
        exact distinct.2.2 _ taken (id first) (by simp) rfl
      rw [regrouped] at distinct ⊢
      rw [List.foldlM_cons, insertRow, if_neg fresh]
      exact induction distinct

theorem distinctIds_of_foldlM {refusal : ε} {new after : List α}
    (distinct : DistinctIds id rows)
    (inserted : new.foldlM (insertRow id refusal) rows = .ok after) :
    DistinctIds id after := by
  induction new generalizing rows with
  | nil =>
      obtain rfl := Except.ok.inj inserted
      exact distinct
  | cons first rest induction =>
      rw [List.foldlM_cons, insertRow] at inserted
      split at inserted
      · cases inserted
      · rename_i fresh
        exact induction (distinct.snoc fresh) inserted

theorem eq_append_of_foldlM {refusal : ε} {new after : List α}
    (inserted : new.foldlM (insertRow id refusal) rows = .ok after) :
    after = rows ++ new := by
  induction new generalizing rows with
  | nil =>
      obtain rfl := Except.ok.inj inserted
      exact (List.append_nil rows).symm
  | cons first rest induction =>
      rw [List.foldlM_cons, insertRow] at inserted
      split at inserted
      · cases inserted
      · rw [induction inserted, List.append_assoc]
        rfl

/-- Rows that were all inserted have ids of their own. -/
theorem distinctIds_of_inserted {refusal : ε} {new after : List α}
    (inserted : new.foldlM (insertRow id refusal) [] = .ok after) :
    DistinctIds id new := by
  have distinct := distinctIds_of_foldlM DistinctIds.nil inserted
  rwa [eq_append_of_foldlM inserted, List.nil_append] at distinct

end

namespace HashMap

variable {κ ν ε : Type}

/-- `SELECT COUNT(*)` -/
def rowCount (map : HashMap κ ν) : Nat := map.entries.card

theorem rowCount_toFinmap (listing : Listing κ ν) :
    rowCount listing.toFinmap = listing.entries.length := rfl

theorem eq_empty_of_rowCount {map : HashMap κ ν} (none : rowCount map = 0) :
    map = ∅ :=
  Finmap.ext (Multiset.card_eq_zero.mp none)

variable [DecidableEq κ]

/-- `INSERT` of a row with its primary key. -/
def insertNew (refusal : ε) (map : HashMap κ ν)
    (entry : Sigma fun _ : κ => ν) : Except ε (HashMap κ ν) :=
  if entry.1 ∈ map then .error refusal
  else .ok (map.insert entry.1 entry.2)

theorem foldlM_insertNew {refusal : ε}
    {entries : List (Sigma fun _ : κ => ν)} (distinct : entries.NodupKeys)
    {map : HashMap κ ν} (fresh : ∀ entry ∈ entries, entry.1 ∉ map) :
    entries.foldlM (insertNew refusal) map =
      .ok (entries.foldl (fun acc entry => acc.insert entry.1 entry.2)
        map) := by
  induction entries generalizing map with
  | nil => rfl
  | cons first rest induction =>
      obtain ⟨key, value⟩ := first
      obtain ⟨unused, others⟩ := List.nodupKeys_cons.mp distinct
      rw [List.foldlM_cons, insertNew, if_neg (fresh _ List.mem_cons_self)]
      apply induction others
      intro entry member
      rw [Finmap.mem_insert]
      rintro (same | taken)
      · exact unused (same ▸ List.mem_keys_of_mem member)
      · exact fresh entry (List.mem_cons_of_mem _ member) taken

theorem nodupKeys_of_foldlM {refusal : ε}
    {entries : List (Sigma fun _ : κ => ν)} {map after : HashMap κ ν}
    (inserted : entries.foldlM (insertNew refusal) map = .ok after) :
    entries.NodupKeys ∧ ∀ entry ∈ entries, entry.1 ∉ map := by
  induction entries generalizing map with
  | nil => exact ⟨List.nodupKeys_nil, fun _ member => by cases member⟩
  | cons first rest induction =>
      obtain ⟨key, value⟩ := first
      rw [List.foldlM_cons, insertNew] at inserted
      split at inserted
      · cases inserted
      · rename_i fresh
        obtain ⟨distinct, unused⟩ := induction inserted
        constructor
        · refine List.nodupKeys_cons.mpr ⟨?_, distinct⟩
          intro taken
          obtain ⟨other, member⟩ := List.exists_of_mem_keys taken
          exact unused _ member (Finmap.mem_insert.mpr (Or.inl rfl))
        · intro entry member
          rcases List.mem_cons.mp member with rfl | later
          · exact fresh
          · intro held
            exact unused entry later (Finmap.mem_insert.mpr (Or.inr held))

/-- The rows of a scan, inserted into an empty table. -/
theorem foldlM_insertNew_listing (refusal : ε) (listing : Listing κ ν) :
    listing.entries.foldlM (insertNew refusal) (∅ : HashMap κ ν) =
      .ok listing.toFinmap := by
  rw [foldlM_insertNew listing.nodupKeys fun _ _ => Finmap.notMem_empty,
    foldl_insert_listing]

/-! Maps that hold related values under the same keys. -/

def Related {ω : Type} (related : ν → ω → Prop) (first : HashMap κ ν)
    (second : HashMap κ ω) : Prop :=
  ∀ key, Option.Rel related (first.lookup key) (second.lookup key)

namespace Related

variable {ω : Type} {related : ν → ω → Prop} {first : HashMap κ ν}
  {second : HashMap κ ω}

theorem empty : Related related (∅ : HashMap κ ν) (∅ : HashMap κ ω) := by
  intro key
  rw [Finmap.lookup_empty, Finmap.lookup_empty]
  exact .none

theorem insert (both : Related related first second) (key : κ) {value : ν}
    {stored : ω} (here : related value stored) :
    Related related (first.insert key value) (second.insert key stored) := by
  intro other
  rw [lookup_insert_ite, lookup_insert_ite]
  split
  · exact .some here
  · exact both other

theorem erase (both : Related related first second) (key : κ) :
    Related related (first.erase key) (second.erase key) := by
  intro other
  by_cases same : other = key
  · subst same
    rw [Finmap.lookup_erase, Finmap.lookup_erase]
    exact .none
  · rw [Finmap.lookup_erase_ne same, Finmap.lookup_erase_ne same]
    exact both other

theorem symm (both : Related related first second) :
    Related (fun stored value => related value stored) second first := by
  intro key
  have here := both key
  cases found : first.lookup key <;> cases held : second.lookup key <;>
    rw [found, held] at here
  · exact .none
  · cases here
  · cases here
  · cases here with
    | some pair => exact .some pair

/-- A scan of one map goes through the other in some order. -/
theorem listing (both : Related related first second)
    {scan : Listing κ ω} (scanned : scan.toFinmap = second) :
    ∃ listing : Listing κ ν, listing.toFinmap = first ∧
      List.Forall₂ (fun row entry =>
        row.1 = entry.1 ∧ related entry.2 row.2)
        scan.entries listing.entries := by
  subst scanned
  exact exists_listing_forall₂ _ scan first fun key => by
    simpa using both.symm key

theorem rowCount (both : Related related first second) :
    HashMap.rowCount first = HashMap.rowCount second := by
  induction second using Finmap.induction_on with
  | H scan =>
      obtain ⟨listing, rfl, matched⟩ := both.listing rfl
      rw [rowCount_toFinmap, rowCount_toFinmap, matched.length_eq]

end Related

end HashMap

end StellarConduit.Data
