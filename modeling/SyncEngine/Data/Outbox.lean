import Mathlib.Algebra.Order.Ring.Int
import Mathlib.Data.List.Induction
import SyncEngine.Data.Run

namespace StellarConduit.Data

/-! Boxes that number what is put into them and keep each item until its number
is taken out. -/

inductive BoxEvent (α : Type)
  | put (item : α)
  | take (number : Int)

structure Outbox (α : Type) where
  /-- The numbers from 1 to `issued` have been given away. -/
  issued : Nat
  pending : List (Int × α)

namespace Outbox

variable {α ℓ : Type}

def empty : Outbox α := ⟨0, []⟩

def step (box : Outbox α) : Option (BoxEvent α) → Outbox α
  | none => box
  | some (.put item) =>
      ⟨box.issued + 1, box.pending ++ [((box.issued : Int) + 1, item)]⟩
  | some (.take number) =>
      { box with
        pending := box.pending.filter fun entry => entry.1 ≠ number }

section

variable (event : ℓ → Option (BoxEvent α))

/-- The box after the events that the labels of `trace` stand for. -/
def run (trace : List ℓ) : Outbox α :=
  trace.foldl (fun box label => box.step (event label)) empty

variable {event}

@[simp] theorem run_nil : run event [] = empty := rfl

@[simp] theorem run_snoc (trace : List ℓ) (label : ℓ) :
    run event (trace ++ [label]) = (run event trace).step (event label) := by
  simp [run]

/-- Numbers only grow, and the pending ones come in their order. -/
theorem increasing_run (trace : List ℓ) :
    (run event trace).pending.Pairwise
        (fun first second => first.1 < second.1) ∧
      ∀ entry ∈ (run event trace).pending,
        entry.1 ≤ (run event trace).issued := by
  induction trace using List.reverseRecOn with
  | nil => simp [empty]
  | append_singleton trace label induction =>
      obtain ⟨increasing, within⟩ := induction
      rw [run_snoc]
      match event label with
      | none => exact ⟨increasing, within⟩
      | some (.put item) =>
          constructor
          · refine List.pairwise_append.mpr
              ⟨increasing, List.pairwise_singleton _ _, ?_⟩
            intro entry member new single
            obtain rfl := List.mem_singleton.mp single
            exact Int.lt_add_one_of_le (within entry member)
          · intro entry member
            rcases List.mem_append.mp member with earlier | single
            · have below := within entry earlier
              simp only [step, Nat.cast_add, Nat.cast_one]
              omega
            · obtain rfl := List.mem_singleton.mp single
              simp [step]
      | some (.take number) =>
          exact ⟨increasing.filter _, fun entry member =>
            within entry (List.mem_filter.mp member).1⟩

/-- What is pending was put in under the next number and has not been taken
since. -/
theorem mem_pending_run (trace : List ℓ) (number : Int) (item : α) :
    (number, item) ∈ (run event trace).pending ↔
      ∃ before label after, trace = before ++ label :: after ∧
        event label = some (.put item) ∧
        number = ((run event before).issued : Int) + 1 ∧
        ∀ later ∈ after, event later ≠ some (.take number) := by
  induction trace using List.reverseRecOn with
  | nil => simp [empty]
  | append_singleton trace label induction =>
      rw [run_snoc]
      -- an item that stays pending, or that was pending before this label
      have kept (untaken : event label ≠ some (.take number))
          (member : (number, item) ∈ (run event trace).pending) :
          ∃ before other after,
            trace ++ [label] = before ++ other :: after ∧
            event other = some (.put item) ∧
            number = ((run event before).issued : Int) + 1 ∧
            ∀ later ∈ after, event later ≠ some (.take number) := by
        obtain ⟨before, other, after, rfl, put, numbered, quiet⟩ :=
          induction.mp member
        refine ⟨before, other, after ++ [label], by simp, put, numbered, ?_⟩
        intro later member
        rcases List.mem_append.mp member with earlier | single
        · exact quiet later earlier
        · obtain rfl := List.mem_singleton.mp single
          exact untaken
      have earlier {before : List ℓ} {other : ℓ} {rest : List ℓ}
          (prior : trace = before ++ other :: rest)
          (put : event other = some (.put item))
          (numbered : number = ((run event before).issued : Int) + 1)
          (quiet : ∀ later ∈ rest ++ [label],
            event later ≠ some (.take number)) :
          (number, item) ∈ (run event trace).pending :=
        induction.mpr ⟨before, other, rest, prior, put, numbered,
          fun later member => quiet later (List.mem_append_left _ member)⟩
      cases happens : event label with
      | none =>
          constructor
          · exact kept (by simp [happens])
          · rintro ⟨before, other, after, split, put, numbered, quiet⟩
            rcases snoc_eq_append_cons split with
              ⟨_, _, rfl⟩ | ⟨rest, rfl, prior⟩
            · simp [happens] at put
            · exact earlier prior put numbered quiet
      | some happening =>
          cases happening with
          | put new =>
              constructor
              · intro member
                rcases List.mem_append.mp member with held | single
                · exact kept (by simp [happens]) held
                · obtain ⟨rfl, rfl⟩ :=
                    Prod.mk.inj (List.mem_singleton.mp single)
                  exact ⟨trace, label, [], rfl, happens, rfl, by simp⟩
              · rintro ⟨before, other, after, split, put, numbered, quiet⟩
                rcases snoc_eq_append_cons split with
                  ⟨_, rfl, rfl⟩ | ⟨rest, rfl, prior⟩
                · rw [happens] at put
                  obtain rfl := BoxEvent.put.inj (Option.some_inj.mp put)
                  rw [numbered]
                  exact List.mem_append_right _ (List.mem_singleton_self _)
                · exact List.mem_append_left _
                    (earlier prior put numbered quiet)
          | take taken =>
              rw [step, List.mem_filter, decide_eq_true_eq]
              constructor
              · rintro ⟨held, differs⟩
                apply kept _ held
                rw [happens]
                intro same
                exact differs (BoxEvent.take.inj (Option.some_inj.mp same)).symm
              · rintro ⟨before, other, after, split, put, numbered, quiet⟩
                rcases snoc_eq_append_cons split with
                  ⟨_, _, rfl⟩ | ⟨rest, rfl, prior⟩
                · simp [happens] at put
                · refine ⟨earlier prior put numbered quiet, ?_⟩
                  rintro rfl
                  exact quiet label (by simp) happens

end

end Outbox

end StellarConduit.Data
