import Mathlib.Algebra.GroupWithZero.Nat
import Mathlib.Data.List.DropRight
import SyncEngine.Data.Machine
import SyncEngine.Data.Run

namespace StellarConduit.Data

/-! A counter that is read by differences. A release reads what it has gained
since the release before; a reset sets it to zero in between, and a tick beyond
its capacity wraps around. -/

inductive MeterEvent
  | ticked
  | reset
  | released
  deriving DecidableEq

structure Meter where
  value : Nat
  last : Nat

namespace Meter

variable (capacity : Nat)

def new : Meter := ⟨0, 0⟩

def advance (meter : Meter) : MeterEvent → Meter
  | .ticked => { meter with value := (meter.value + 1) % capacity }
  | .reset => { meter with value := 0 }
  | .released => { meter with last := meter.value }

/-- What a release reads. -/
def gain (meter : Meter) : MeterEvent → Option Nat
  | .released => some (meter.value - meter.last)
  | _ => none

/-- Whether the value drops at an event. -/
def Drops (meter : Meter) : MeterEvent → Prop
  | .ticked => capacity ≤ meter.value + 1
  | .reset => meter.value ≠ 0
  | .released => False

instance (meter : Meter) (event : MeterEvent) :
    Decidable (meter.Drops capacity event) := by
  cases event with
  | ticked => exact inferInstanceAs (Decidable (capacity ≤ _))
  | reset => exact inferInstanceAs (Decidable (_ ≠ _))
  | released => exact inferInstanceAs (Decidable False)

def run (events : List MeterEvent) : Meter :=
  Machine.run (advance capacity) new events

def gains (events : List MeterEvent) : List Nat :=
  Machine.collect (advance capacity) gain new events

/-- The events up to the last release, and those since. -/
def closed (events : List MeterEvent) : List MeterEvent :=
  events.rdropWhile (· != .released)

def window (events : List MeterEvent) : List MeterEvent :=
  events.rtakeWhile (· != .released)

def ticks (events : List MeterEvent) : Nat := events.count .ticked

/-- Whether the value drops in the window since the last release. -/
def Dropped (events : List MeterEvent) : Prop :=
  ∃ earlier event later, window events = earlier ++ event :: later ∧
    (run capacity (closed events ++ earlier)).Drops capacity event

/-- No window that is released has both ticks and drops. -/
def Unbroken (events : List MeterEvent) : Prop :=
  ∀ before after, events = before ++ .released :: after →
    .ticked ∉ window before ∨ ¬ Dropped capacity before

variable {capacity} {events : List MeterEvent} {event : MeterEvent}

theorem closed_append_window (events : List MeterEvent) :
    closed events ++ window events = events :=
  List.rdropWhile_append_rtakeWhile

theorem window_snoc (running : event ≠ .released) :
    window (events ++ [event]) = window events ++ [event] :=
  List.rtakeWhile_concat_pos _ _ _ (bne_iff_ne.mpr running)

theorem closed_snoc (running : event ≠ .released) :
    closed (events ++ [event]) = closed events :=
  List.rdropWhile_concat_pos _ _ _ (bne_iff_ne.mpr running)

@[simp] theorem window_released :
    window (events ++ [.released]) = [] :=
  List.rtakeWhile_concat_neg _ _ _ (by simp)

@[simp] theorem closed_released :
    closed (events ++ [.released]) = events ++ [.released] :=
  List.rdropWhile_concat_neg _ _ _ (by simp)

theorem run_snoc : run capacity (events ++ [event]) =
    (run capacity events).advance capacity event :=
  Machine.run_snoc _ _ _

theorem not_dropped_released :
    ¬ Dropped capacity (events ++ [.released]) := by
  rintro ⟨earlier, event, later, split, -⟩
  rw [window_released] at split
  exact absurd split (by simp)

theorem dropped_snoc (running : event ≠ .released) :
    Dropped capacity (events ++ [event]) ↔
      Dropped capacity events ∨ (run capacity events).Drops capacity event := by
  have whole := closed_append_window events
  unfold Dropped
  rw [window_snoc running, closed_snoc running]
  constructor
  · rintro ⟨earlier, dropping, later, split, drops⟩
    rcases snoc_eq_append_cons split with ⟨-, rfl, rfl⟩ | ⟨rest, rfl, old⟩
    · rw [whole] at drops
      exact Or.inr drops
    · exact Or.inl ⟨earlier, dropping, rest, old, drops⟩
  · rintro (⟨earlier, dropping, later, split, drops⟩ | drops)
    · refine ⟨earlier, dropping, later ++ [event], ?_, drops⟩
      rw [split, List.append_assoc, List.cons_append]
    · refine ⟨window events, event, [], rfl, ?_⟩
      rw [whole]
      exact drops

/-- The value has kept up with the ticks since the last release unless it
dropped. -/
structure Follows (capacity : Nat) (events : List MeterEvent) : Prop where
  bounded : (run capacity events).value < capacity
  atMost : (run capacity events).value ≤
    (run capacity events).last + ticks (window events)
  behind : Dropped capacity events ↔ (run capacity events).value <
    (run capacity events).last + ticks (window events)

theorem follows (positive : 0 < capacity) (events : List MeterEvent) :
    Follows capacity events := by
  induction events using List.reverseRecOn with
  | nil =>
      refine ⟨positive, Nat.le_refl 0, ?_⟩
      constructor
      · rintro ⟨earlier, event, later, split, -⟩
        exact absurd split (by simp [window])
      · intro behind
        exact absurd behind (Nat.lt_irrefl 0)
  | append_singleton events event induction =>
      obtain ⟨bounded, atMost, behind⟩ := induction
      cases event with
      | ticked =>
          have gained : ticks (window (events ++ [.ticked])) =
              ticks (window events) + 1 := by
            rw [window_snoc (by decide), ticks, ticks]
            simp
          have drops : (run capacity events).Drops capacity .ticked ↔
              capacity ≤ (run capacity events).value + 1 := Iff.rfl
          have value : (run capacity (events ++ [.ticked])).value =
              if capacity ≤ (run capacity events).value + 1 then 0
              else (run capacity events).value + 1 := by
            rw [run_snoc, advance]
            split
            · have full : (run capacity events).value + 1 = capacity := by
                omega
              rw [full, Nat.mod_self]
            · exact Nat.mod_eq_of_lt (by omega)
          have last : (run capacity (events ++ [.ticked])).last =
              (run capacity events).last := by
            rw [run_snoc, advance]
          constructor
          · rw [value]
            split <;> omega
          · rw [value, last, gained]
            split <;> omega
          · rw [dropped_snoc (by decide), behind, drops, value, last, gained]
            split <;> omega
      | reset =>
          have kept : ticks (window (events ++ [.reset])) =
              ticks (window events) := by
            rw [window_snoc (by decide), ticks, ticks]
            simp
          have drops : (run capacity events).Drops capacity .reset ↔
              (run capacity events).value ≠ 0 := Iff.rfl
          constructor
          · rw [run_snoc]
            exact positive
          · rw [run_snoc]
            exact Nat.zero_le _
          · rw [dropped_snoc (by decide), behind, drops, kept, run_snoc]
            simp only [advance]
            omega
      | released =>
          have none : ticks [] = 0 := rfl
          constructor
          · rw [run_snoc]
            exact bounded
          · rw [run_snoc, window_released, none]
            exact Nat.le_refl _
          · rw [run_snoc, window_released, none]
            exact iff_of_false not_dropped_released (Nat.lt_irrefl _)

theorem gains_snoc (running : event ≠ .released) :
    gains capacity (events ++ [event]) = gains capacity events := by
  rw [gains, Machine.collect_snoc]
  cases event with
  | released => exact absurd rfl running
  | _ => exact List.append_nil _

theorem gains_released :
    gains capacity (events ++ [.released]) = gains capacity events ++
      [(run capacity events).value - (run capacity events).last] :=
  Machine.collect_snoc _ _ _ _

theorem unbroken_snoc (running : event ≠ .released) :
    Unbroken capacity (events ++ [event]) ↔ Unbroken capacity events := by
  constructor
  · intro unbroken before after split
    apply unbroken before (after ++ [event])
    rw [split, List.append_assoc, List.cons_append]
  · intro unbroken before after split
    rcases snoc_eq_append_cons split with ⟨-, -, same⟩ | ⟨rest, -, old⟩
    · exact absurd same running
    · exact unbroken before rest old

theorem unbroken_released :
    Unbroken capacity (events ++ [.released]) ↔
      Unbroken capacity events ∧
        (.ticked ∉ window events ∨ ¬ Dropped capacity events) := by
  constructor
  · intro unbroken
    refine ⟨?_, unbroken events [] rfl⟩
    intro before after split
    apply unbroken before (after ++ [.released])
    rw [split, List.append_assoc, List.cons_append]
  · rintro ⟨unbroken, last⟩ before after split
    rcases snoc_eq_append_cons split with ⟨-, rfl, -⟩ | ⟨rest, -, old⟩
    · exact last
    · exact unbroken before rest old

/-- Releases never read more than was counted before them, and read all of it
exactly when no window is broken. -/
theorem sum_gains (positive : 0 < capacity) (events : List MeterEvent) :
    (gains capacity events).sum ≤ ticks (closed events) ∧
      ((gains capacity events).sum = ticks (closed events) ↔
        Unbroken capacity events) := by
  induction events using List.reverseRecOn with
  | nil =>
      refine ⟨Nat.le_refl 0, iff_of_true rfl ?_⟩
      intro before after split
      exact absurd split (by simp)
  | append_singleton events event induction =>
      by_cases running : event ≠ .released
      · rw [gains_snoc running, closed_snoc running, unbroken_snoc running]
        exact induction
      · obtain rfl : event = .released := not_not.mp running
        have whole : ticks events =
            ticks (closed events) + ticks (window events) := by
          rw [ticks, ticks, ticks, ← List.count_append,
            closed_append_window]
        have counted : ticks (events ++ [.released]) = ticks events := by
          simp [ticks]
        have idle : .ticked ∉ window events ↔ ticks (window events) = 0 :=
          List.count_eq_zero.symm
        obtain ⟨-, atMost, behind⟩ := follows positive events
        obtain ⟨least, exact_⟩ := induction
        rw [gains_released, closed_released, unbroken_released, ← exact_,
          idle, behind, counted, whole, List.sum_append, List.sum_singleton]
        constructor <;> omega

end Meter

end StellarConduit.Data
