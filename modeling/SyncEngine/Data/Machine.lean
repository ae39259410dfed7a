import Mathlib.Data.List.Induction

namespace StellarConduit.Data

/-! Machines whose steps are a function of the state and an input, and what is
observed of the steps of a run. -/

namespace Machine

variable {σ ι β : Type} (step : σ → ι → σ)

def run (state : σ) (inputs : List ι) : σ := inputs.foldl step state

/-- What `observe` sees of the steps of a run, each in the state before it. -/
def collect (observe : σ → ι → Option β) : σ → List ι → List β
  | _, [] => []
  | state, input :: rest =>
      (observe state input).toList ++ collect observe (step state input) rest

variable {step}

@[simp] theorem run_snoc (state : σ) (inputs : List ι) (input : ι) :
    run step state (inputs ++ [input]) =
      step (run step state inputs) input := by
  simp [run]

theorem run_append (state : σ) (before after : List ι) :
    run step state (before ++ after) =
      run step (run step state before) after :=
  List.foldl_append

@[simp] theorem collect_nil (observe : σ → ι → Option β) (state : σ) :
    collect step observe state [] = [] := rfl

theorem collect_append (observe : σ → ι → Option β) (state : σ)
    (before after : List ι) :
    collect step observe state (before ++ after) =
      collect step observe state before ++
        collect step observe (run step state before) after := by
  induction before generalizing state with
  | nil => rfl
  | cons input rest induction =>
      rw [List.cons_append, collect, induction, collect, List.append_assoc]
      rfl

theorem collect_snoc (observe : σ → ι → Option β) (state : σ)
    (inputs : List ι) (input : ι) :
    collect step observe state (inputs ++ [input]) =
      collect step observe state inputs ++
        (observe (run step state inputs) input).toList := by
  simp [collect_append, collect]

/-! Machines that answer every input. -/

section

variable {τ : Type} {step : σ → ι → σ} {answer : σ → ι → β}

def answers (step : σ → ι → σ) (answer : σ → ι → β) : σ → List ι → List β :=
  collect step fun state input => some (answer state input)

theorem answers_cons (state : σ) (input : ι) (rest : List ι) :
    answers step answer state (input :: rest) =
      answer state input :: answers step answer (step state input) rest :=
  rfl

/-- Every input of a run comes in a state where it is `allowed`. -/
def Always (step : σ → ι → σ) (allowed : σ → ι → Prop) (state : σ)
    (inputs : List ι) : Prop :=
  ∀ before input after, inputs = before ++ input :: after →
    allowed (run step state before) input

theorem always_nil {allowed : σ → ι → Prop} (state : σ) :
    Always step allowed state [] :=
  fun _ _ _ split => by simp at split

theorem always_cons {allowed : σ → ι → Prop} {state : σ} {input : ι}
    {rest : List ι} :
    Always step allowed state (input :: rest) ↔
      allowed state input ∧ Always step allowed (step state input) rest := by
  constructor
  · intro always
    refine ⟨always [] input rest rfl, ?_⟩
    intro before later after split
    exact always (input :: before) later after (congrArg _ split)
  · rintro ⟨first, always⟩ before later after split
    cases before with
    | nil =>
        obtain ⟨rfl, rfl⟩ := List.cons.inj split
        exact first
    | cons head before =>
        obtain ⟨rfl, rests⟩ := List.cons.inj split
        exact always before later after rests

theorem Always.mono {allowed also : σ → ι → Prop} {state : σ}
    {inputs : List ι} (always : Always step allowed state inputs)
    (weaker : ∀ state input, allowed state input → also state input) :
    Always step also state inputs :=
  fun _ input after split => weaker _ input (always _ _ after split)

/-- Related states answer alike up to the first input that tells them
apart. -/
theorem answers_eq_iff {other : τ → ι → τ} {reply : τ → ι → β}
    {related : σ → τ → Prop} {allowed : σ → ι → Prop}
    (matched : ∀ first second input, related first second →
      allowed first input →
      answer first input = reply second input ∧
        related (step first input) (other second input))
    (told : ∀ first second input, related first second →
      answer first input = reply second input → allowed first input)
    {first : σ} {second : τ} (start : related first second)
    (inputs : List ι) :
    answers step answer first inputs = answers other reply second inputs ↔
      Always step allowed first inputs := by
  induction inputs generalizing first second with
  | nil => exact ⟨fun _ _ _ _ split => by simp at split, fun _ => rfl⟩
  | cons input rest induction =>
      rw [answers_cons, answers_cons, List.cons_eq_cons, always_cons]
      constructor
      · rintro ⟨same, rests⟩
        have allowedHere := told _ _ _ start same
        have next := (matched _ _ _ start allowedHere).2
        exact ⟨allowedHere, (induction next).mp rests⟩
      · rintro ⟨allowedHere, always⟩
        obtain ⟨same, next⟩ := matched _ _ _ start allowedHere
        exact ⟨same, (induction next).mpr always⟩

/-- Related states answer alike as long as they stay related. -/
theorem answers_eq_of_matched {other : τ → ι → τ} {reply : τ → ι → β}
    {related : σ → τ → Prop} {allowed : σ → ι → Prop}
    (matched : ∀ first second input, related first second →
      allowed first input →
      answer first input = reply second input ∧
        related (step first input) (other second input))
    {first : σ} {second : τ} (start : related first second)
    {inputs : List ι} (always : Always step allowed first inputs) :
    answers step answer first inputs = answers other reply second inputs := by
  induction inputs generalizing first second with
  | nil => rfl
  | cons input rest induction =>
      obtain ⟨allowedHere, later⟩ := always_cons.mp always
      obtain ⟨same, next⟩ := matched _ _ _ start allowedHere
      rw [answers_cons, answers_cons, same, induction next later]

end

/-! Inputs with a part that some steps do not read. Two runs that agree on the
other part, and on this part where it is read, are seen alike. -/

section

variable {α γ : Type} {step : σ → α × γ → σ} {observe : σ → α × γ → Option β}
  (reads : σ → α → Bool)

/-- The second part of an input, where it is read. -/
def secretRead (state : σ) (input : α × γ) : Option γ :=
  if reads state input.1 then some input.2 else none

theorem noninterference
    (unread : ∀ state shown secret other, reads state shown = false →
      step state (shown, secret) = step state (shown, other) ∧
        observe state (shown, secret) = observe state (shown, other))
    {first second : List (α × γ)} (state : σ)
    (shown : first.map Prod.fst = second.map Prod.fst)
    (secrets : collect step (secretRead reads) state first =
      collect step (secretRead reads) state second) :
    collect step observe state first = collect step observe state second := by
  induction first generalizing second state with
  | nil =>
      obtain rfl := List.map_eq_nil_iff.mp shown.symm
      rfl
  | cons input rest induction =>
      cases second with
      | nil => cases shown
      | cons other others =>
          obtain ⟨open_, secret⟩ := input
          obtain ⟨same, secret'⟩ := other
          obtain ⟨rfl, rests⟩ := List.cons.inj shown
          cases read : reads state open_ with
          | true =>
              simp only [collect, secretRead, read, if_true,
                Option.toList_some, List.singleton_append,
                List.cons.injEq] at secrets
              obtain ⟨rfl, secrets⟩ := secrets
              rw [collect, collect, induction _ rests secrets]
          | false =>
              obtain ⟨stepped, seen⟩ :=
                unread state open_ secret secret' read
              simp only [collect, secretRead, read, Bool.false_eq_true,
                if_false, Option.toList_none, List.nil_append,
                stepped] at secrets
              rw [collect, collect, seen, stepped,
                induction _ rests secrets]

end

end Machine

end StellarConduit.Data
