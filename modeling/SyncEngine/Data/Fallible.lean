import Mathlib.Data.List.Basic

namespace StellarConduit.Data

/-! Calls that may fail, one after another. -/

variable {α β γ ε : Type}

theorem exists_of_bind_ok {first : Except ε α} {next : α → Except ε β}
    {result : β} (ok : first >>= next = .ok result) :
    ∃ value, first = .ok value ∧ next value = .ok result := by
  cases first with
  | error error => cases ok
  | ok value => exact ⟨value, rfl, ok⟩

theorem exists_of_map_ok {first : Except ε α} {change : α → β} {result : β}
    (ok : first.map change = .ok result) :
    ∃ value, first = .ok value ∧ change value = result := by
  cases first with
  | error error => cases ok
  | ok value => exact ⟨value, rfl, Except.ok.inj ok⟩

section

variable {read : α → Except ε β} {rows : List α}

/-- Rows that are read to the values of a list of their own. -/
theorem mapM_ok_of_forall₂ {stored : List γ} {value : γ → β}
    (reads : List.Forall₂ (fun row kept => read row = .ok (value kept)) rows
      stored) : rows.mapM read = .ok (stored.map value) := by
  induction reads with
  | nil => rfl
  | cons first _ induction =>
      rw [List.mapM_cons, first, induction]
      rfl

theorem mapM_eq_filterMap
    (reads : ∀ row ∈ rows, ∃ value, read row = .ok value) :
    rows.mapM read = .ok (rows.filterMap fun row => (read row).toOption) := by
  induction rows with
  | nil => rfl
  | cons row rest induction =>
      obtain ⟨value, first⟩ := reads row List.mem_cons_self
      have others := induction fun other member =>
        reads other (List.mem_cons_of_mem _ member)
      rw [List.mapM_cons, first, others]
      simp [first, Except.toOption, bind, Except.bind, pure, Except.pure]

theorem mapM_ok_of_mem {values : List β}
    (listed : rows.mapM read = .ok values) {row : α} (member : row ∈ rows) :
    ∃ value, read row = .ok value := by
  induction rows generalizing values with
  | nil => cases member
  | cons first rest induction =>
      rw [List.mapM_cons] at listed
      obtain ⟨value, head, listed⟩ := exists_of_bind_ok listed
      obtain ⟨others, tail, -⟩ := exists_of_bind_ok listed
      rcases List.mem_cons.mp member with rfl | later
      · exact ⟨value, head⟩
      · exact induction tail later

theorem foldlM_ok_of_forall {step : γ → α → Except ε γ}
    (steps : ∀ state, ∀ row ∈ rows, ∃ next, step state row = .ok next)
    (state : γ) : ∃ last, rows.foldlM step state = .ok last := by
  induction rows generalizing state with
  | nil => exact ⟨state, rfl⟩
  | cons row rest induction =>
      obtain ⟨next, stepped⟩ := steps state row List.mem_cons_self
      obtain ⟨last, ran⟩ := induction (fun state other member =>
        steps state other (List.mem_cons_of_mem _ member)) next
      refine ⟨last, ?_⟩
      rw [List.foldlM_cons, stepped]
      exact ran

end

end StellarConduit.Data
