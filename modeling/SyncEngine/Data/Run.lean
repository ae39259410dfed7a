import Mathlib.Data.List.Nodup

namespace StellarConduit.Data

/-! Labelled transition systems and their finite runs. A label records one
performed operation together with what it answered. -/

/-- A list grown at its end, split at one of its elements: the split is at the
new element, or inside the old list. -/
theorem snoc_eq_append_cons {xs before after : List α} {x y : α}
    (split : xs ++ [x] = before ++ y :: after) :
    (after = [] ∧ xs = before ∧ x = y) ∨
      ∃ rest, after = rest ++ [x] ∧ xs = before ++ y :: rest := by
  rcases List.eq_nil_or_concat after with rfl | ⟨rest, last, rfl⟩
  · obtain ⟨same, single⟩ := List.append_inj' split rfl
    exact Or.inl ⟨rfl, same, List.singleton_inj.mp single⟩
  · have regrouped : xs ++ [x] = (before ++ y :: rest) ++ [last] := by
      simpa using split
    obtain ⟨same, single⟩ := List.append_inj' regrouped rfl
    obtain rfl := List.singleton_inj.mp single
    exact Or.inr ⟨rest, List.concat_eq_append, same⟩

/-- Of two elements of a list, one comes before the other. -/
theorem exists_split_of_ne {xs : List α} {x y : α} (first : x ∈ xs)
    (second : y ∈ xs) (differ : x ≠ y) :
    (∃ before middle after, xs = before ++ x :: middle ++ y :: after) ∨
      ∃ before middle after, xs = before ++ y :: middle ++ x :: after := by
  obtain ⟨before, after, rfl⟩ := List.append_of_mem first
  rcases List.mem_append.mp second with earlier | later
  · obtain ⟨front, middle, rfl⟩ := List.append_of_mem earlier
    exact Or.inr ⟨front, middle, after, rfl⟩
  · rcases List.mem_cons.mp later with same | behind
    · exact absurd same.symm differ
    · obtain ⟨middle, back, rfl⟩ := List.append_of_mem behind
      exact Or.inl ⟨before, middle, back, by simp⟩

structure System (σ ℓ : Type) where
  init : σ → Prop
  step : σ → ℓ → σ → Prop

namespace System

/-- `RunUnder sys guard trace s`: the labels of `trace`, performed in order
from an initial state, lead to `s`, and `guard` held of every one of them at
the moment it was performed. The guard sees the labels that went before, the
state it is performed in and the label itself. -/
inductive RunUnder (sys : System σ ℓ) (guard : List ℓ → σ → ℓ → Prop) :
    List ℓ → σ → Prop
  | start (initial : sys.init s) : RunUnder sys guard [] s
  | snoc (run : RunUnder sys guard trace s) (stepped : sys.step s l t)
      (guarded : guard trace s l) : RunUnder sys guard (trace ++ [l]) t

abbrev Run (sys : System σ ℓ) : List ℓ → σ → Prop :=
  sys.RunUnder fun _ _ _ => True

variable {sys : System σ ℓ} {guard : List ℓ → σ → ℓ → Prop}

theorem RunUnder.inheriting {closed : List ℓ → Prop}
    (inherited : ∀ trace l, closed (trace ++ [l]) → closed trace)
    (run : sys.RunUnder guard trace s) (holds : closed trace) :
    sys.RunUnder (fun before _ l => closed (before ++ [l])) trace s := by
  induction run with
  | start initial => exact .start initial
  | snoc _ stepped _ induction =>
      exact .snoc (induction (inherited _ _ holds)) stepped holds

/-- What holds initially and is preserved by every guarded step holds at the
end of every guarded run. The invariant may speak about the trace. -/
theorem RunUnder.invariant (inv : List ℓ → σ → Prop)
    (initial : ∀ s, sys.init s → inv [] s)
    (preserved : ∀ trace s l t, sys.RunUnder guard trace s → inv trace s →
      guard trace s l → sys.step s l t → inv (trace ++ [l]) t)
    (run : sys.RunUnder guard trace s) : inv trace s := by
  induction run with
  | start start => exact initial _ start
  | snoc run stepped guarded induction =>
      exact preserved _ _ _ _ run induction guarded stepped

theorem RunUnder.weaken {other : List ℓ → σ → ℓ → Prop}
    (implied : ∀ trace s l t, sys.RunUnder guard trace s →
      sys.step s l t → guard trace s l → other trace s l)
    (run : sys.RunUnder guard trace s) : sys.RunUnder other trace s := by
  induction run with
  | start initial => exact .start initial
  | snoc run stepped guarded induction =>
      exact .snoc induction stepped (implied _ _ _ _ run stepped guarded)

/-- A system every step of which is matched by one of another system, or by
none, runs along with it. `matched` relates the two traces. -/
theorem RunUnder.projects {other : System τ κ}
    {otherGuard : List κ → τ → κ → Prop} (project : σ → τ)
    (matched : List ℓ → List κ → Prop)
    (initial : ∀ s, sys.init s → other.init (project s) ∧ matched [] [])
    (steps : ∀ trace s l t otherTrace, sys.step s l t → guard trace s l →
      other.RunUnder otherGuard otherTrace (project s) →
      matched trace otherTrace →
      (project t = project s ∧ matched (trace ++ [l]) otherTrace) ∨
      ∃ k, other.step (project s) k (project t) ∧
        otherGuard otherTrace (project s) k ∧
        matched (trace ++ [l]) (otherTrace ++ [k]))
    (run : sys.RunUnder guard trace s) :
    ∃ otherTrace, other.RunUnder otherGuard otherTrace (project s) ∧
      matched trace otherTrace := by
  induction run with
  | start start => exact ⟨[], .start (initial _ start).1, (initial _ start).2⟩
  | @snoc trace s l t run stepped guarded induction =>
      obtain ⟨otherTrace, alongside, same⟩ := induction
      rcases steps trace s l t otherTrace stepped guarded alongside same with
        ⟨stutters, still⟩ | ⟨k, otherStepped, otherGuarded, still⟩
      · rw [stutters]
        exact ⟨otherTrace, alongside, still⟩
      · exact ⟨_, alongside.snoc otherStepped otherGuarded, still⟩

theorem RunUnder.at_label (run : sys.RunUnder guard whole s)
    (split : whole = before ++ l :: after) :
    ∃ r t, sys.RunUnder guard before r ∧ sys.step r l t ∧ guard before r l := by
  induction run generalizing after with
  | start => simp at split
  | snoc run stepped guarded induction =>
      rcases snoc_eq_append_cons split with ⟨rfl, rfl, rfl⟩ | ⟨rest, rfl, prior⟩
      · exact ⟨_, _, run, stepped, guarded⟩
      · exact induction prior

/-- A property that `mark` steps establish and `quiet` steps preserve holds
as long as only quiet steps follow the mark. -/
theorem RunUnder.since (mark quiet : ℓ → Prop) (holds : σ → Prop)
    (established : ∀ trace s l t, sys.RunUnder guard trace s →
      sys.step s l t → mark l → holds t)
    (preserved : ∀ trace s l t, sys.RunUnder guard trace s →
      sys.step s l t → quiet l → holds s → holds t)
    (run : sys.RunUnder guard whole s) (split : whole = before ++ l :: after)
    (marked : mark l) (silent : ∀ m ∈ after, quiet m) : holds s := by
  induction run generalizing after with
  | start => simp at split
  | snoc run stepped guarded induction =>
      rcases snoc_eq_append_cons split with ⟨rfl, rfl, rfl⟩ | ⟨rest, rfl, prior⟩
      · exact established _ _ _ _ run stepped marked
      · exact preserved _ _ _ _ run stepped (silent _ (by simp))
          (induction prior fun m member => silent m (by simp [member]))

/-- If a key can only be emitted while it is not yet among the emitted ones,
then no key is emitted twice. -/
theorem RunUnder.emitted_nodup (emit : ℓ → Option κ)
    (fresh : ∀ trace s l t k, sys.RunUnder guard trace s → guard trace s l →
      sys.step s l t → emit l = some k → k ∉ trace.filterMap emit)
    (run : sys.RunUnder guard trace s) : (trace.filterMap emit).Nodup := by
  induction run with
  | start => simp
  | @snoc trace s l t run stepped guarded induction =>
      rw [List.filterMap_append, List.nodup_append]
      cases emission : emit l with
      | none => simp [emission, induction]
      | some key =>
          refine ⟨induction, by simp [emission], ?_⟩
          intro other member key' single same
          subst same
          have : key = other := by simpa [emission, eq_comm] using single
          subst this
          exact fresh _ _ _ _ _ run guarded stepped emission member

end System

end StellarConduit.Data
