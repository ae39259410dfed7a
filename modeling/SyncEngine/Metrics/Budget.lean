import SyncEngine.Metrics

namespace StellarConduit

open Data

namespace DpExporter

variable {R : Type}

/-- An exporter that is created has a budget, if any, that is not zero. -/
theorem new_eq_ok {config : DpExportConfig} {rng : R}
    {exporter : DpExporter R} (created : new config rng = .ok exporter) :
    exporter = fromParts config rng ∧ config.maxReleases ≠ some 0 := by
  unfold new at created
  cases valid : config.validate with
  | error error =>
      rw [valid] at created
      cases created
  | ok _ =>
      rw [valid] at created
      refine ⟨(Except.ok.inj created).symm, ?_⟩
      unfold DpExportConfig.validate at valid
      split_ifs at valid
      assumption

/-- A window is released first of all, or if the budget is not spent. -/
theorem answer_eq_none {exporter : DpExporter R} {now : UInt64}
    (unanswered : exporter.answer now = none) :
    exporter.cached = none ∨
      ∀ max ∈ exporter.config.maxReleases, exporter.releasesDone < max := by
  unfold answer at unanswered
  cases cached : exporter.cached with
  | none => exact Or.inl rfl
  | some snap =>
      right
      intro max found
      rw [cached, Option.bind_some, found, Option.bind_some] at unanswered
      split_ifs at unanswered with fresh spent
      exact UInt32.not_le.mp spent

/-- Without a release the answer is what is cached, or that the budget is
spent. -/
theorem answer_eq_some {exporter : DpExporter R} {now : UInt64}
    {answer : Except DpExportError DpSnapshot}
    (answered : exporter.answer now = some answer) :
    (∃ snap ∈ exporter.cached, answer = .ok snap) ∨
      ∃ max ∈ exporter.config.maxReleases,
        answer = .error (.budgetExhausted exporter.releasesDone max) := by
  unfold DpExporter.answer at answered
  cases cached : exporter.cached with
  | none =>
      rw [cached] at answered
      cases answered
  | some snap =>
      rw [cached, Option.bind_some] at answered
      split_ifs at answered
      · exact Or.inl ⟨snap, rfl, (Option.some.inj answered).symm⟩
      · right
        cases capped : exporter.config.maxReleases with
        | none =>
            rw [capped] at answered
            cases answered
        | some max =>
            rw [capped, Option.bind_some] at answered
            split_ifs at answered
            exact ⟨max, rfl, (Option.some.inj answered).symm⟩

@[simp] theorem release_config (sampleLaplace : Float → R → Float × R)
    (exporter : DpExporter R) (now : UInt64) (current : Vector UInt64 5) :
    (exporter.release sampleLaplace now current).2.config =
      exporter.config := rfl

@[simp] theorem release_cached (sampleLaplace : Float → R → Float × R)
    (exporter : DpExporter R) (now : UInt64) (current : Vector UInt64 5) :
    (exporter.release sampleLaplace now current).2.cached =
      some (exporter.release sampleLaplace now current).1 := rfl

/-- The count does not saturate as long as it has not reached a cap. -/
theorem release_releasesDone (sampleLaplace : Float → R → Float × R)
    {exporter : DpExporter R} {max : UInt32}
    (room : exporter.releasesDone < max) (now : UInt64)
    (current : Vector UInt64 5) :
    (exporter.release sampleLaplace now current).2.releasesDone.toNat =
      exporter.releasesDone.toNat + 1 := by
  have below : exporter.releasesDone ≠ UInt32.ofNat (2 ^ 32 - 1) := by
    rintro full
    rw [full, UInt32.lt_iff_toNat_lt] at room
    have bound := max.toNat_lt
    have top : (UInt32.ofNat (2 ^ 32 - 1)).toNat = 2 ^ 32 - 1 := rfl
    omega
  show (if exporter.releasesDone = UInt32.ofNat (2 ^ 32 - 1) then
    exporter.releasesDone else exporter.releasesDone + 1).toNat = _
  rw [if_neg below, UInt32.toNat_add]
  rw [UInt32.lt_iff_toNat_lt] at room
  have bound := max.toNat_lt
  show (exporter.releasesDone.toNat + 1) % 2 ^ 32 = _
  omega

end DpExporter

/-! An exporter beside counters that anything may update. -/

inductive MetricsCall
  | update (change : SyncEngineMetrics → SyncEngineMetrics)
  | scrape (now : UInt64)

namespace MetricsCall

def reading : MetricsCall → Option UInt64
  | .update _ => none
  | .scrape now => some now

end MetricsCall

structure Monitored (R : Type) where
  metrics : SyncEngineMetrics
  exporter : DpExporter R

namespace Monitored

variable {R : Type} (sampleLaplace : Float → R → Float × R)

def step (state : Monitored R) : MetricsCall → Monitored R
  | .update change => { state with metrics := change state.metrics }
  | .scrape now => { state with
      exporter :=
        (state.exporter.export sampleLaplace now state.metrics).2 }

def result (state : Monitored R) :
    MetricsCall → Option (Except DpExportError DpSnapshot)
  | .update _ => none
  | .scrape now =>
      some (state.exporter.export sampleLaplace now state.metrics).1

/-- The snapshot that a call produces, if it releases a window. -/
def produced (state : Monitored R) : MetricsCall → Option DpSnapshot
  | .update _ => none
  | .scrape now =>
      match state.exporter.answer now with
      | some _ => none
      | none => some (state.exporter.release sampleLaplace now
          state.metrics.lifetimeVec).1

/-- The counters at a call that releases a window. -/
def released (state : Monitored R) :
    MetricsCall → Option (Vector UInt64 5)
  | .update _ => none
  | .scrape now =>
      match state.exporter.answer now with
      | some _ => none
      | none => some state.metrics.lifetimeVec

/-- The exporter knows how many snapshots were produced, and the last one. -/
structure Tallies (state : Monitored R) (config : DpExportConfig)
    (snapshots : List DpSnapshot) : Prop where
  sameConfig : state.exporter.config = config
  counted : state.exporter.releasesDone.toNat = snapshots.length
  cached : state.exporter.cached = snapshots.getLast?
  within : ∀ max ∈ config.maxReleases, state.exporter.releasesDone ≤ max

/-- A scrape that releases no window does nothing. -/
theorem step_scrape (state : Monitored R) (now : UInt64) :
    state.step sampleLaplace (.scrape now) =
      match state.exporter.answer now with
      | some _ => state
      | none => { state with exporter := (state.exporter.release sampleLaplace
          now state.metrics.lifetimeVec).2 } := by
  cases answered : state.exporter.answer now with
  | none => simp [step, DpExporter.export, answered]
  | some answer => simp [step, DpExporter.export, answered]

variable {sampleLaplace}

theorem Tallies.step {state : Monitored R} {config : DpExportConfig}
    {snapshots : List DpSnapshot} {k : UInt32}
    (capped : config.maxReleases = some k) (positive : 0 < k)
    (tallies : state.Tallies config snapshots) (call : MetricsCall) :
    (state.step sampleLaplace call).Tallies config
      (snapshots ++ (state.produced sampleLaplace call).toList) := by
  cases call with
  | update change =>
      rw [produced, Option.toList_none, List.append_nil]
      exact ⟨tallies.sameConfig, tallies.counted, tallies.cached,
        tallies.within⟩
  | scrape now =>
      cases answered : state.exporter.answer now with
      | some answer =>
          simp only [step_scrape, produced, answered, Option.toList_none,
            List.append_nil]
          exact tallies
      | none =>
          have room : state.exporter.releasesDone < k := by
            rcases DpExporter.answer_eq_none answered with first | unspent
            · have empty : snapshots = [] :=
                List.getLast?_eq_none_iff.mp (tallies.cached.symm.trans first)
              have zero := tallies.counted
              rw [empty] at zero
              rw [UInt32.lt_iff_toNat_lt] at positive ⊢
              rw [zero]
              exact positive
            · apply unspent
              rw [tallies.sameConfig, capped]
              rfl
          have one := DpExporter.release_releasesDone sampleLaplace room now
            state.metrics.lifetimeVec
          simp only [step_scrape, produced, answered, Option.toList_some]
          refine ⟨tallies.sameConfig, ?_, ?_, ?_⟩
          · rw [one, tallies.counted, List.length_append,
              List.length_singleton]
          · rw [List.getLast?_concat]
            rfl
          · intro max found
            obtain rfl := Option.mem_unique found capped
            rw [UInt32.lt_iff_toNat_lt] at room
            rw [UInt32.le_iff_toNat_le, one]
            exact room

theorem tallies_run (sampleLaplace : Float → R → Float × R)
    {config : DpExportConfig} {k : UInt32}
    (capped : config.maxReleases = some k) (positive : 0 < k)
    (metrics : SyncEngineMetrics) (rng : R) (calls : List MetricsCall) :
    let start : Monitored R := ⟨metrics, .fromParts config rng⟩
    (Machine.run (step sampleLaplace) start calls).Tallies config
      (Machine.collect (step sampleLaplace) (produced sampleLaplace) start
        calls) := by
  intro start
  induction calls using List.reverseRecOn with
  | nil =>
      exact ⟨rfl, rfl, rfl, fun _ _ => UInt32.zero_le⟩
  | append_singleton calls call induction =>
      rw [Machine.run_snoc, Machine.collect_snoc]
      exact induction.step capped positive call

/-! Only a release reads the counters. -/

/-- The time of a scrape, and the counters it finds. -/
def scrape (state : Monitored R) :
    MetricsCall → Option (UInt64 × Vector UInt64 5)
  | .update _ => none
  | .scrape now => some (now, state.metrics.lifetimeVec)

variable (sampleLaplace)

def scrapeStep (exporter : DpExporter R)
    (input : UInt64 × Vector UInt64 5) : DpExporter R :=
  match exporter.answer input.1 with
  | some _ => exporter
  | none => (exporter.release sampleLaplace input.1 input.2).2

def scrapeResult (exporter : DpExporter R)
    (input : UInt64 × Vector UInt64 5) :
    Option (Except DpExportError DpSnapshot) :=
  match exporter.answer input.1 with
  | some answer => some answer
  | none => some (.ok (exporter.release sampleLaplace input.1 input.2).1)

def reads (exporter : DpExporter R) (now : UInt64) : Bool :=
  (exporter.answer now).isNone

variable {sampleLaplace}

theorem export_eq (sampleLaplace : Float → R → Float × R)
    (exporter : DpExporter R) (now : UInt64) (metrics : SyncEngineMetrics) :
    scrapeResult sampleLaplace exporter (now, metrics.lifetimeVec) =
        some (exporter.export sampleLaplace now metrics).1 ∧
      scrapeStep sampleLaplace exporter (now, metrics.lifetimeVec) =
        (exporter.export sampleLaplace now metrics).2 := by
  unfold scrapeResult scrapeStep DpExporter.export
  cases exporter.answer now with
  | none => exact ⟨rfl, rfl⟩
  | some answer => exact ⟨rfl, rfl⟩

theorem map_scrape (state : Monitored R) (calls : List MetricsCall) :
    (Machine.collect (step sampleLaplace) scrape state calls).map Prod.fst =
      calls.filterMap MetricsCall.reading := by
  induction calls generalizing state with
  | nil => rfl
  | cons call rest induction =>
      cases call with
      | update change => exact induction _
      | scrape now =>
          exact congrArg (now :: ·) (induction _)

/-- What the exporter answers and releases depends on the scrapes alone. -/
theorem collect_scrapes (sampleLaplace : Float → R → Float × R)
    (state : Monitored R) (calls : List MetricsCall) :
    let scrapes := Machine.collect (step sampleLaplace) scrape state calls
    Machine.collect (step sampleLaplace) (result sampleLaplace) state calls =
        Machine.collect (scrapeStep sampleLaplace)
          (scrapeResult sampleLaplace) state.exporter scrapes ∧
      Machine.collect (step sampleLaplace) released state calls =
        Machine.collect (scrapeStep sampleLaplace)
          (Machine.secretRead reads) state.exporter scrapes := by
  induction calls generalizing state with
  | nil => exact ⟨rfl, rfl⟩
  | cons call rest induction =>
      obtain ⟨results, releases⟩ := induction (state.step sampleLaplace call)
      cases call with
      | update change => exact ⟨results, releases⟩
      | scrape now =>
          obtain ⟨answered, stepped⟩ :=
            export_eq sampleLaplace state.exporter now
              state.metrics
          have read : released state (.scrape now) =
              Machine.secretRead reads state.exporter
                (now, state.metrics.lifetimeVec) := by
            cases answer : state.exporter.answer now with
            | none => simp [released, Machine.secretRead, reads, answer]
            | some _ => simp [released, Machine.secretRead, reads, answer]
          simp only [Machine.collect, scrape, Option.toList_some,
            List.singleton_append, answered, stepped, ← read]
          rw [results, releases]
          exact ⟨rfl, rfl⟩

theorem results_eq_of_released_eq {first second : Monitored R}
    (sameExporter : first.exporter = second.exporter)
    {calls others : List MetricsCall}
    (readings : calls.filterMap MetricsCall.reading =
      others.filterMap MetricsCall.reading)
    (counters : Machine.collect (step sampleLaplace) released first calls =
      Machine.collect (step sampleLaplace) released second others) :
    Machine.collect (step sampleLaplace) (result sampleLaplace) first calls =
      Machine.collect (step sampleLaplace) (result sampleLaplace) second
        others := by
  obtain ⟨firstResults, firstReleases⟩ :=
    collect_scrapes sampleLaplace first calls
  obtain ⟨secondResults, secondReleases⟩ :=
    collect_scrapes sampleLaplace second others
  rw [firstReleases, secondReleases, ← sameExporter] at counters
  rw [firstResults, secondResults, ← sameExporter]
  apply Machine.noninterference reads _ _ _ counters
  · intro exporter now secret other unread
    unfold scrapeStep scrapeResult
    cases answered : exporter.answer now with
    | none =>
        rw [reads, answered] at unread
        cases unread
    | some answer => exact ⟨rfl, rfl⟩
  · rw [map_scrape, map_scrape]
    exact readings

end Monitored

open Monitored in
/-- At most as many snapshots are produced as the budget allows, every answer
is the last of them, a new one or a refusal that changes nothing, and no
answer depends on the counters between the releases. -/
theorem export_within_budget {R : Type}
    (sampleLaplace : Float → R → Float × R) (config : DpExportConfig)
    {k : UInt32} (capped : config.maxReleases = some k) (positive : 0 < k)
    (rng : R) (metrics : SyncEngineMetrics) (calls : List MetricsCall) :
    let start (metrics : SyncEngineMetrics) : Monitored R :=
      ⟨metrics, .fromParts config rng⟩
    let snapshots := Machine.collect (step sampleLaplace)
      (produced sampleLaplace) (start metrics)
    let after := Machine.run (step sampleLaplace) (start metrics)
    (snapshots calls).length ≤ k.toNat ∧
    (after calls).exporter.releasesDone.toNat = (snapshots calls).length ∧
    (∀ before now rest, calls = before ++ .scrape now :: rest →
      let state := after before
      match (state.exporter.export sampleLaplace now state.metrics).1 with
      | .error error =>
          error = .budgetExhausted state.exporter.releasesDone k ∧
            state.step sampleLaplace (.scrape now) = state
      | .ok snap =>
          some snap = (snapshots before).getLast? ∨
            some snap = state.produced sampleLaplace (.scrape now)) ∧
    ∀ (other : SyncEngineMetrics) (others : List MetricsCall),
      calls.filterMap MetricsCall.reading =
        others.filterMap MetricsCall.reading →
      Machine.collect (step sampleLaplace) released (start metrics) calls =
        Machine.collect (step sampleLaplace) released (start other) others →
      Machine.collect (step sampleLaplace) (result sampleLaplace)
          (start metrics) calls =
        Machine.collect (step sampleLaplace) (result sampleLaplace)
          (start other) others := by
  intro start snapshots after
  have tallies := tallies_run sampleLaplace capped positive metrics rng
  refine ⟨?_, (tallies calls).counted, ?_, ?_⟩
  · rw [← (tallies calls).counted, ← UInt32.le_iff_toNat_le]
    exact (tallies calls).within k capped
  · intro before now rest split state
    have known := tallies before
    cases answered : state.exporter.answer now with
    | none =>
        simp only [DpExporter.export, produced, answered, or_true]
    | some answer =>
        simp only [DpExporter.export, step_scrape, produced, answered]
        rcases DpExporter.answer_eq_some answered with
          ⟨snap, cached, rfl⟩ | ⟨max, found, rfl⟩
        · left
          rw [← known.cached]
          exact cached.symm
        · rw [known.sameConfig, capped] at found
          obtain rfl := Option.some.inj found
          exact ⟨rfl, trivial⟩
  · intro other others readings counters
    have sameExporter : (start metrics).exporter = (start other).exporter :=
      rfl
    exact results_eq_of_released_eq sameExporter readings counters

/-- With one release and no noise the budget is spent at the second window. -/
theorem export_within_budget_once :
    let noise (_ : Float) (rng : Unit) : Float × Unit := (0.0, rng)
    let config : DpExportConfig := ⟨1.0, ⟨60, 0⟩, some 1⟩
    let start : Monitored Unit := ⟨.new, .fromParts config ()⟩
    let calls : List MetricsCall := [.update .recordQueued, .scrape 1000,
      .update .recordQueued, .scrape 2000]
    (Machine.collect (Monitored.step noise) (Monitored.produced noise) start
        calls).length ≤ 1 ∧
      (Machine.run (Monitored.step noise) start
        calls).exporter.releasesDone = 1 ∧
      (((Machine.run (Monitored.step noise) start calls).exporter.export noise
        61000 .new).1 matches .error (.budgetExhausted 1 1)) := by
  intro noise config start calls
  have within := export_within_budget noise config rfl (by decide) () .new calls
  refine ⟨within.1, ?_, ?_⟩
  · decide +kernel
  · decide +kernel

end StellarConduit
