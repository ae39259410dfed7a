import Mathlib.Data.List.Chain

namespace StellarConduit.Data

/-! State machines given by an initial predicate and a next-state relation, and
the finite behaviours they allow: `Init /\ [][Next]_state`. -/

structure Spec (α : Type) where
  init : α → Prop
  next : α → α → Prop

namespace Spec

variable {α : Type} (spec : Spec α)

/-- A step of the machine, or one that leaves the state as it is. -/
def StepOrStutter (before after : α) : Prop :=
  before = after ∨ spec.next before after

structure Allows (behaviour : List α) : Prop where
  starts : ∀ first ∈ behaviour.head?, spec.init first
  steps : behaviour.IsChain spec.StepOrStutter

def Terminal (state : α) : Prop :=
  ∀ next, ¬spec.next state next

variable {spec}

theorem chain_stays {state : α} (terminal : spec.Terminal state)
    {rest : List α} (steps : (state :: rest).IsChain spec.StepOrStutter) :
    ∀ later ∈ rest, later = state := by
  induction rest with
  | nil => simp
  | cons next rest induction =>
      obtain ⟨stepped, remaining⟩ := List.isChain_cons_cons.mp steps
      obtain rfl : state = next := by
        rcases stepped with same | moved
        · exact same
        · exact absurd moved (terminal next)
      intro later among
      rcases List.mem_cons.mp among with rfl | further
      · rfl
      · exact induction remaining later further

/-- A behaviour does not leave a terminal state. -/
theorem Allows.stays {state : α} {behaviour before after : List α}
    (allows : spec.Allows behaviour) (terminal : spec.Terminal state)
    (split : behaviour = before ++ state :: after) :
    ∀ later ∈ after, later = state := by
  subst split
  exact chain_stays terminal (List.isChain_append.mp allows.steps).2.1

end Spec

end StellarConduit.Data
