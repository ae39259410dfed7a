import Mathlib.Data.List.Basic
import Mathlib.Logic.Relation

namespace StellarConduit.Data.Contest

/-! Contests between candidates that have scores. A candidate wins with enough
points, and with more than the other side has. -/

variable {α : Type} (quorum : Nat) (score : α → Nat)

def Beats (winner loser : α) : Prop :=
  quorum ≤ score winner ∧ score loser < score winner

/-- The one candidate that wins over all the others at once. -/
structure Elected (candidates : List α) (leader : α) : Prop where
  listed : leader ∈ candidates
  enough : quorum ≤ score leader
  most : ∀ other ∈ candidates, other ≠ leader → score other < score leader

variable {quorum score} {candidates : List α} {leader : α}

theorem Elected.beats (elected : Elected quorum score candidates leader)
    {other : α} (listed : other ∈ candidates) (differ : other ≠ leader) :
    Beats quorum score leader other :=
  ⟨elected.enough, elected.most other listed differ⟩

/-- With a rival there is no more to an election than its contests of two. -/
theorem elected_iff {rival : α} (listed : rival ∈ candidates)
    (differ : rival ≠ leader) :
    Elected quorum score candidates leader ↔
      leader ∈ candidates ∧ ∀ other ∈ candidates, other ≠ leader →
        Beats quorum score leader other := by
  constructor
  · intro elected
    exact ⟨elected.listed, fun other => elected.beats⟩
  · intro wins
    obtain ⟨leaderListed, beaten⟩ := wins
    exact ⟨leaderListed, (beaten rival listed differ).1,
      fun other among apart => (beaten other among apart).2⟩

/-- Contests of two that a score decides do not go round in a circle. -/
theorem not_circular {relation : α → α → Prop}
    (decided : ∀ winner loser, relation winner loser →
      Beats quorum score winner loser) (candidate : α) :
    ¬ Relation.TransGen relation candidate candidate := by
  intro circle
  have descends : ∀ other, Relation.TransGen relation candidate other →
      score other < score candidate := by
    intro other path
    induction path with
    | single won => exact (decided _ _ won).2
    | tail _ won induction => exact Nat.lt_trans (decided _ _ won).2 induction
  exact Nat.lt_irrefl _ (descends candidate circle)

end StellarConduit.Data.Contest
