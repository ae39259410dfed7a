namespace StellarConduit.Data

/-! Calls that write to durable storage and may be cut off by a crash. Volatile
memory does not survive a crash, so all that a crashed call leaves is storage
as it was at that moment. -/

/-- How one atomic write to durable storage ends. -/
inductive Write
  | applied
  | refused
  /-- The process dies before the write takes effect. -/
  | lostBefore
  /-- The process dies after the write took effect and before it is answered. -/
  | lostAfter
  deriving DecidableEq, Repr

inductive Read
  | served
  | refused
  deriving DecidableEq, Repr

inductive Outcome (δ α : Type)
  | returned (durable : δ) (value : α)
  | crashed (durable : δ)

namespace Outcome

def bind (outcome : Outcome δ α) (next : δ → α → Outcome δ β) : Outcome δ β :=
  match outcome with
  | .returned durable value => next durable value
  | .crashed durable => .crashed durable

@[simp] theorem bind_returned (durable : δ) (value : α)
    (next : δ → α → Outcome δ β) :
    (returned durable value).bind next = next durable value := rfl

@[simp] theorem bind_crashed (durable : δ) (next : δ → α → Outcome δ β) :
    (crashed durable).bind next = crashed durable := rfl

def durable : Outcome δ α → δ
  | .returned durable _ => durable
  | .crashed durable => durable

@[simp] theorem durable_returned (durable : δ) (value : α) :
    (returned durable value).durable = durable := rfl

@[simp] theorem durable_crashed (durable : δ) :
    (crashed durable : Outcome δ α).durable = durable := rfl

/-- The operator `?` after a call that may be cut off. -/
def tryBind (outcome : Outcome δ (Except ε α))
    (next : δ → α → Outcome δ (Except ε β)) : Outcome δ (Except ε β) :=
  outcome.bind fun durable result =>
    match result with
    | .error error => .returned durable (.error error)
    | .ok value => next durable value

@[simp] theorem tryBind_ok (durable : δ) (value : α)
    (next : δ → α → Outcome δ (Except ε β)) :
    (returned durable (.ok value)).tryBind next = next durable value := rfl

@[simp] theorem tryBind_error (durable : δ) (error : ε)
    (next : δ → α → Outcome δ (Except ε β)) :
    (returned durable (.error error)).tryBind next =
      returned durable (.error error) := rfl

@[simp] theorem tryBind_crashed (durable : δ)
    (next : δ → α → Outcome δ (Except ε β)) :
    (crashed durable).tryBind next = crashed durable := rfl

theorem exists_of_tryBind_ok {outcome : Outcome δ (Except ε α)}
    {next : δ → α → Outcome δ (Except ε β)} {after : δ} {value : β}
    (ok : outcome.tryBind next = .returned after (.ok value)) :
    ∃ durable first, outcome = .returned durable (.ok first) ∧
      next durable first = .returned after (.ok value) := by
  cases outcome with
  | crashed durable => cases ok
  | returned durable result =>
      cases result with
      | error error => cases ok
      | ok first => exact ⟨durable, first, rfl, ok⟩

/-- The outcome of a call on a part of storage, as one on the whole. -/
def within (outcome : Outcome δ α) (whole : δ → γ) : Outcome γ α :=
  match outcome with
  | .returned durable value => .returned (whole durable) value
  | .crashed durable => .crashed (whole durable)

@[simp] theorem durable_within (outcome : Outcome δ α) (whole : δ → γ) :
    (outcome.within whole).durable = whole outcome.durable := by
  cases outcome <;> rfl

end Outcome

namespace Write

/-- Perform `statement` as one atomic write. Storage may refuse it with
`refusal`; a statement that fails by itself changes nothing either. -/
def run (write : Write) (refusal : ε) (statement : δ → Except ε δ)
    (durable : δ) : Outcome δ (Except ε Unit) :=
  match write, statement durable with
  | .applied, .ok after => .returned after (.ok ())
  | .applied, .error error => .returned durable (.error error)
  | .refused, _ => .returned durable (.error refusal)
  | .lostBefore, _ => .crashed durable
  | .lostAfter, .ok after => .crashed after
  | .lostAfter, .error _ => .crashed durable

/-- A write changes nothing, or what its statement makes of storage. -/
theorem run_cases (write : Write) (refusal : ε) (statement : δ → Except ε δ)
    (durable : δ) :
    (∃ error, write.run refusal statement durable =
      .returned durable (.error error)) ∨
    write.run refusal statement durable = .crashed durable ∨
    ∃ after, statement durable = .ok after ∧
      (write.run refusal statement durable = .returned after (.ok ()) ∨
        write.run refusal statement durable = .crashed after) := by
  cases made : statement durable with
  | error error =>
      cases write with
      | applied => exact Or.inl ⟨error, by simp [run, made]⟩
      | refused => exact Or.inl ⟨refusal, by simp [run]⟩
      | lostBefore => exact Or.inr (Or.inl (by simp [run]))
      | lostAfter => exact Or.inr (Or.inl (by simp [run, made]))
  | ok after =>
      cases write with
      | applied =>
          exact Or.inr (Or.inr ⟨after, rfl, Or.inl (by simp [run, made])⟩)
      | refused => exact Or.inl ⟨refusal, by simp [run]⟩
      | lostBefore => exact Or.inr (Or.inl (by simp [run]))
      | lostAfter =>
          exact Or.inr (Or.inr ⟨after, rfl, Or.inr (by simp [run, made])⟩)

/-- What holds of storage before a write and after its statement holds however
the write ends. -/
theorem durable_run {holds : δ → Prop} {statement : δ → Except ε δ}
    {durable : δ} (start : holds durable)
    (made : ∀ after, statement durable = .ok after → holds after)
    (write : Write) (refusal : ε) :
    holds (write.run refusal statement durable).durable := by
  rcases write.run_cases refusal statement durable with
    ⟨error, failed⟩ | lost | ⟨after, done, committed | lost⟩
  · rw [failed]
    exact start
  · rw [lost]
    exact start
  · rw [committed]
    exact made after done
  · rw [lost]
    exact made after done

def takesEffect : Write → Bool
  | .applied => true
  | .refused => false
  | .lostBefore => false
  | .lostAfter => true

end Write

end StellarConduit.Data
