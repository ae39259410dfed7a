import SyncEngine.Data.HashMap
import SyncEngine.Data.Run

namespace StellarConduit.Data

/-! Entries that expire. An entry that is fresh at some time was fresh at every
time before. -/

structure Expiry (τ ν : Type) [LE τ] where
  fresh : τ → ν → Bool
  fresh_of_le : ∀ {now later entry}, now ≤ later → fresh later entry = true →
    fresh now entry = true

/-- A key is taken with an entry, or given back. -/
inductive Lease (κ ν : Type)
  | taken (key : κ) (entry : ν)
  | given (key : κ)

namespace Expiry

variable {κ τ ν : Type} [DecidableEq κ] [LE τ] (expiry : Expiry τ ν)

/-- Drop what has expired. -/
def sweep (now : τ) (held : HashMap κ ν) : HashMap κ ν :=
  held.retain fun _ entry => expiry.fresh now entry

/-- The keys that are taken at a time, by a log of what happened before. -/
def content (now : τ) (log : List (Lease κ ν)) : Finset κ :=
  log.foldl (fun keys event =>
    match event with
    | .taken key entry =>
        if expiry.fresh now entry then insert key keys else keys
    | .given key => keys.erase key) ∅

variable {expiry} {now later : τ} {held : HashMap κ ν}
  {log : List (Lease κ ν)} {key : κ} {entry : ν}

@[simp] theorem content_nil : expiry.content now ([] : List (Lease κ ν)) = ∅ :=
  rfl

theorem mem_content_taken {other : κ} :
    other ∈ expiry.content now (log ++ [.taken key entry]) ↔
      (other = key ∧ expiry.fresh now entry = true) ∨
        other ∈ expiry.content now log := by
  rw [content, List.foldl_append, List.foldl_cons, List.foldl_nil]
  dsimp only
  split
  · rename_i isFresh
    simp [isFresh, content]
  · rename_i expired
    simp [expired, content]

theorem mem_content_given {other : κ} :
    other ∈ expiry.content now (log ++ [.given key]) ↔
      other ≠ key ∧ other ∈ expiry.content now log := by
  rw [content, List.foldl_append, List.foldl_cons, List.foldl_nil,
    Finset.mem_erase]
  rfl

/-- The keys that were taken with an entry still fresh and not given back
since. -/
theorem mem_content : key ∈ expiry.content now log ↔
    ∃ before entry after, log = before ++ .taken key entry :: after ∧
      expiry.fresh now entry = true ∧ .given key ∉ after := by
  induction log using List.reverseRecOn with
  | nil => simp
  | append_singleton log event induction =>
      cases event with
      | taken other last =>
          rw [mem_content_taken, induction]
          constructor
          · rintro (⟨rfl, isFresh⟩ | ⟨before, entry, after, rfl, rest⟩)
            · exact ⟨log, last, [], rfl, isFresh, by simp⟩
            · refine ⟨before, entry, after ++ [.taken other last], ?_,
                rest.1, ?_⟩
              · rw [List.append_assoc, List.cons_append]
              · simpa using rest.2
          · rintro ⟨before, entry, after, split, isFresh, kept⟩
            rcases snoc_eq_append_cons split with
              ⟨rfl, rfl, same⟩ | ⟨middle, rfl, rfl⟩
            · obtain ⟨rfl, rfl⟩ := Lease.taken.inj same
              exact Or.inl ⟨rfl, isFresh⟩
            · refine Or.inr ⟨before, entry, middle, rfl, isFresh, ?_⟩
              intro member
              exact kept (List.mem_append_left _ member)
      | given other =>
          rw [mem_content_given, induction]
          constructor
          · rintro ⟨differ, before, entry, after, rfl, isFresh, kept⟩
            refine ⟨before, entry, after ++ [.given other], ?_, isFresh, ?_⟩
            · rw [List.append_assoc, List.cons_append]
            · simpa [differ] using kept
          · rintro ⟨before, entry, after, split, isFresh, kept⟩
            rcases snoc_eq_append_cons split with
              ⟨-, -, same⟩ | ⟨middle, rfl, rfl⟩
            · cases same
            · simp only [List.mem_append, List.mem_singleton,
                Lease.given.injEq, not_or] at kept
              exact ⟨kept.2, before, entry, middle, rfl, isFresh, kept.1⟩

/-- At a time, a map holds a fresh entry for exactly the keys that a log says
are taken. It may hold expired entries besides. -/
def Represents (expiry : Expiry τ ν) (held : HashMap κ ν)
    (log : List (Lease κ ν)) (now : τ) : Prop :=
  ∀ key, key ∈ expiry.content now log ↔
    ∃ entry, held.lookup key = some entry ∧ expiry.fresh now entry = true

theorem represents_empty :
    expiry.Represents (∅ : HashMap κ ν) [] now := by
  intro key
  simp

/-- What a sweep drops had expired for good. -/
theorem Represents.sweep (represents : expiry.Represents held log later)
    (ordered : now ≤ later) :
    expiry.Represents (expiry.sweep now held) log later := by
  intro key
  rw [represents key, Expiry.sweep]
  simp only [HashMap.lookup_retain, Option.filter_eq_some_iff]
  constructor
  · rintro ⟨entry, found, isFresh⟩
    exact ⟨entry, ⟨found, expiry.fresh_of_le ordered isFresh⟩, isFresh⟩
  · rintro ⟨entry, ⟨found, -⟩, isFresh⟩
    exact ⟨entry, found, isFresh⟩

theorem Represents.keys_sweep (represents : expiry.Represents held log now) :
    (expiry.sweep now held).keys = expiry.content now log := by
  ext key
  rw [represents key, HashMap.mem_keys_iff]
  simp only [Expiry.sweep, HashMap.lookup_retain, Option.filter_eq_some_iff]

theorem Represents.taken (represents : expiry.Represents held log now)
    (free : held.lookup key = none) :
    expiry.Represents (held.insert key entry) (log ++ [.taken key entry])
      now := by
  intro other
  rw [mem_content_taken, represents other]
  simp only [HashMap.lookup_insert_ite]
  by_cases same : other = key
  · subst same
    simp [free]
  · simp [same]

theorem Represents.given (represents : expiry.Represents held log now) :
    expiry.Represents (held.erase key) (log ++ [.given key]) now := by
  intro other
  rw [mem_content_given, represents other]
  by_cases same : other = key
  · subst same
    simp
  · simp [same, Finmap.lookup_erase_ne]

/-! A queue of entries that is pruned at its front only. -/

section

variable {xs ys : List ν}

/-- Drop entries from the front up to the first one that is fresh. -/
def prune (expiry : Expiry τ ν) (now : τ) (xs : List ν) : List ν :=
  xs.dropWhile fun entry => !expiry.fresh now entry

theorem exists_pruned (expiry : Expiry τ ν) (now : τ) (xs : List ν) :
    ∃ pruned, xs = pruned ++ expiry.prune now xs ∧
      ∀ entry ∈ pruned, expiry.fresh now entry = false := by
  refine ⟨xs.takeWhile fun entry => !expiry.fresh now entry,
    List.takeWhile_append_dropWhile.symm, ?_⟩
  intro entry member
  simpa using List.all_eq_true.mp List.all_takeWhile entry member

/-- A prune keeps everything that a later one would keep. -/
theorem prune_prune (ordered : now ≤ later) (xs : List ν) :
    expiry.prune later (expiry.prune now xs) = expiry.prune later xs := by
  obtain ⟨pruned, split, expired⟩ := expiry.exists_pruned now xs
  conv_rhs => rw [split]
  symm
  apply List.dropWhile_append_of_pos
  intro entry member
  rw [Bool.not_eq_true', ← Bool.not_eq_true]
  intro isFresh
  have wasFresh := expiry.fresh_of_le ordered isFresh
  rw [expired entry member] at wasFresh
  cases wasFresh

theorem prune_append (same : expiry.prune now xs = expiry.prune now ys)
    (more : List ν) :
    expiry.prune now (xs ++ more) = expiry.prune now (ys ++ more) := by
  unfold prune at same ⊢
  rw [List.dropWhile_append, List.dropWhile_append, same]

/-- What a prune keeps: all that is fresh, and what has expired behind it. -/
theorem length_prune (expiry : Expiry τ ν) (now : τ) (xs : List ν) :
    (expiry.prune now xs).length = xs.countP (expiry.fresh now) +
      (expiry.prune now xs).countP fun entry => !expiry.fresh now entry := by
  obtain ⟨pruned, split, expired⟩ := expiry.exists_pruned now xs
  have none : pruned.countP (expiry.fresh now) = 0 := by
    rw [List.countP_eq_zero]
    intro entry member
    simp [expired entry member]
  have whole := congrArg (List.countP (expiry.fresh now)) split
  rw [List.countP_append, none, Nat.zero_add] at whole
  rw [whole, List.length_eq_countP_add_countP (expiry.fresh now)]
  simp

end

end Expiry

end StellarConduit.Data
