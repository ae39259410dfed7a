import Mathlib.Data.List.Chain
import SyncEngine.Metrics.Budget

namespace StellarConduit

open Data
open EmergencyGuard (toNat_saturatingSub)

/-- Two readings of the clock, in milliseconds, a window apart or more. -/
def Duration.Apart (window : Duration) (earlier later : UInt64) : Prop :=
  earlier.toNat * 1000000 + window.asNanos ≤ later.toNat * 1000000

namespace DpExportConfig

/-- No second release is paid for. -/
def SingleRelease (config : DpExportConfig) : Prop :=
  ∃ max ∈ config.maxReleases, max ≤ 1

/-- The number of milliseconds that is compared with is the window. -/
structure WholeWindow (config : DpExportConfig) : Prop where
  positive : 0 < config.window.asNanos
  exact : config.windowMs.toNat * 1000000 = config.window.asNanos

theorem windowMs_le (config : DpExportConfig) :
    config.windowMs.toNat * 1000000 ≤ config.window.asNanos := by
  have wrapped : config.windowMs.toNat =
      config.window.asNanos / 1000000 % 2 ^ 64 := UInt64.toNat_ofNat'
  have fits := Nat.mod_le (config.window.asNanos / 1000000) (2 ^ 64)
  have rounded := Nat.div_mul_le_self config.window.asNanos 1000000
  rw [wrapped]
  exact (Nat.mul_le_mul_right _ fits).trans rounded

end DpExportConfig

namespace DpExporter

variable {R : Type} {exporter : DpExporter R} {now : UInt64}

/-- After a release the next one comes when the compared milliseconds are
over and the budget is not spent. -/
theorem answer_isNone_iff (held : exporter.cached.isSome = true) :
    exporter.answer now = none ↔
      exporter.config.windowMs.toNat ≤
          now.toNat - exporter.windowStartMs.toNat ∧
        ∀ max ∈ exporter.config.maxReleases,
          exporter.releasesDone < max := by
  obtain ⟨snap, cached⟩ := Option.isSome_iff_exists.mp held
  rw [← toNat_saturatingSub, ← UInt64.le_iff_toNat_le, answer, cached,
    Option.bind_some]
  split_ifs with early
  · simp [early]
  · cases capped : exporter.config.maxReleases with
    | none => simp [UInt64.not_lt.mp early]
    | some max => simp [UInt64.not_lt.mp early]

end DpExporter

namespace Monitored

variable {R : Type} (sampleLaplace : Float → R → Float × R)

/-- The reading at which a call releases a window. -/
def releaseTime (state : Monitored R) : MetricsCall → Option UInt64
  | .update _ => none
  | .scrape now =>
      match state.exporter.answer now with
      | some _ => none
      | none => some now

/-- The exporter knows when it released last. -/
structure Timed (state : Monitored R) (config : DpExportConfig)
    (times : List UInt64) : Prop where
  sameConfig : state.exporter.config = config
  first : times = [] → state.exporter.cached = none
  last : ∀ time ∈ times.getLast?, state.exporter.cached.isSome = true ∧
    state.exporter.windowStartMs = time ∧ 1 ≤ state.exporter.releasesDone

theorem releaseTime_scrape {state : Monitored R} {now : UInt64}
    (released : state.exporter.answer now = none) :
    state.releaseTime (.scrape now) = some now := by
  rw [releaseTime, released]

theorem release_windowStartMs (exporter : DpExporter R) (now : UInt64)
    (current : Vector UInt64 5) :
    (exporter.release sampleLaplace now current).2.windowStartMs = now := rfl

theorem one_le_release (exporter : DpExporter R) (now : UInt64)
    (current : Vector UInt64 5) :
    1 ≤ (exporter.release sampleLaplace now current).2.releasesDone := by
  show 1 ≤ if exporter.releasesDone = UInt32.ofNat (2 ^ 32 - 1) then
    exporter.releasesDone else exporter.releasesDone + 1
  rw [UInt32.le_iff_toNat_le]
  split
  · rename_i full
    rw [full]
    decide
  · rename_i below
    rw [← UInt32.toNat_inj] at below
    have top : (UInt32.ofNat (2 ^ 32 - 1)).toNat = 2 ^ 32 - 1 := rfl
    have bound := exporter.releasesDone.toNat_lt
    have one : (1 : UInt32).toNat = 1 := rfl
    rw [UInt32.toNat_add, one]
    omega

variable {sampleLaplace} {state : Monitored R} {config : DpExportConfig}
  {times : List UInt64}

theorem Timed.step (timed : state.Timed config times) (call : MetricsCall) :
    (state.step sampleLaplace call).Timed config
      (times ++ (state.releaseTime call).toList) := by
  cases call with
  | update change =>
      rw [releaseTime, Option.toList_none, List.append_nil]
      exact ⟨timed.sameConfig, timed.first, timed.last⟩
  | scrape now =>
      cases answered : state.exporter.answer now with
      | some answer =>
          simp only [step_scrape, releaseTime, answered, Option.toList_none,
            List.append_nil]
          exact timed
      | none =>
          simp only [step_scrape, releaseTime, answered, Option.toList_some]
          refine ⟨timed.sameConfig, ?_, ?_⟩
          · intro empty
            exact absurd empty (by simp)
          · intro time latest
            rw [List.getLast?_concat] at latest
            obtain rfl := Option.some.inj latest
            exact ⟨rfl, rfl, one_le_release sampleLaplace _ _ _⟩

theorem timed_run (sampleLaplace : Float → R → Float × R)
    (config : DpExportConfig) (rng : R) (metrics : SyncEngineMetrics)
    (calls : List MetricsCall) :
    let start : Monitored R := ⟨metrics, .fromParts config rng⟩
    (Machine.run (Monitored.step sampleLaplace) start calls).Timed config
      (Machine.collect (Monitored.step sampleLaplace) releaseTime start
        calls) := by
  intro start
  induction calls using List.reverseRecOn with
  | nil => exact ⟨rfl, fun _ => rfl, by simp⟩
  | append_singleton calls call induction =>
      rw [Machine.run_snoc, Machine.collect_snoc]
      exact induction.step call

/-- What is compared keeps the releases apart, or the budget does. -/
theorem Timed.apart (timed : state.Timed config times)
    (spaced : config.SingleRelease ∨ config.WholeWindow) {last now : UInt64}
    (latest : last ∈ times.getLast?)
    (released : state.exporter.answer now = none) :
    config.window.Apart last now := by
  obtain ⟨held, rfl, counted⟩ := timed.last last latest
  obtain ⟨elapsed, unspent⟩ := (DpExporter.answer_isNone_iff held).mp released
  rw [timed.sameConfig] at elapsed unspent
  rcases spaced with ⟨max, capped, single⟩ | whole
  · have room := unspent max capped
    rw [UInt32.lt_iff_toNat_lt] at room
    rw [UInt32.le_iff_toNat_le] at counted single
    have one : (1 : UInt32).toNat = 1 := rfl
    omega
  · have positive := whole.positive
    have exact := whole.exact
    unfold Duration.Apart
    omega

/-- Each snapshot is produced a window or more after the one before it, and a
scrape that comes earlier draws nothing. -/
structure SpacedRun (sampleLaplace : Float → R → Float × R)
    (config : DpExportConfig) (start : Monitored R)
    (calls : List MetricsCall) : Prop where
  apart : (Machine.collect (Monitored.step sampleLaplace) releaseTime start
    calls).IsChain config.window.Apart
  quick : ∀ before now rest, calls = before ++ .scrape now :: rest →
    ∀ last ∈ (Machine.collect (Monitored.step sampleLaplace) releaseTime start
        before).getLast?,
      ¬ config.window.Apart last now →
      (Machine.run (Monitored.step sampleLaplace) start before).step
          sampleLaplace (.scrape now) =
        Machine.run (Monitored.step sampleLaplace) start before

theorem isChain_releaseTime (sampleLaplace : Float → R → Float × R)
    (rng : R) (metrics : SyncEngineMetrics)
    (spaced : config.SingleRelease ∨ config.WholeWindow)
    (calls : List MetricsCall) :
    (Machine.collect (Monitored.step sampleLaplace) releaseTime
      ⟨metrics, .fromParts config rng⟩ calls).IsChain config.window.Apart := by
  induction calls using List.reverseRecOn with
  | nil => exact List.IsChain.nil
  | append_singleton calls call induction =>
      have timed := timed_run sampleLaplace config rng metrics calls
      rw [Machine.collect_snoc]
      cases call with
      | update change =>
          rw [releaseTime, Option.toList_none, List.append_nil]
          exact induction
      | scrape now =>
          rw [releaseTime]
          split
          · rw [Option.toList_none, List.append_nil]
            exact induction
          · rename_i released
            apply induction.append (List.IsChain.singleton now)
            intro last latest next first
            obtain rfl := Option.some.inj first
            exact timed.apart spaced latest released

theorem first_release_releasesDone (sampleLaplace : Float → R → Float × R)
    (config : DpExportConfig) (rng : R) (now : UInt64)
    (current : Vector UInt64 5) :
    (DpExporter.release sampleLaplace (.fromParts config rng) now
      current).2.releasesDone = 1 := by
  show (if (0 : UInt32) = UInt32.ofNat (2 ^ 32 - 1) then (0 : UInt32)
    else 0 + 1) = 1
  rw [if_neg (by decide)]
  rfl

/-- Two scrapes, the second right when the compared milliseconds are over. -/
theorem releaseTime_pair (sampleLaplace : Float → R → Float × R) (rng : R)
    (metrics : SyncEngineMetrics) (unlimited : ¬ config.SingleRelease)
    {first second : UInt64}
    (elapsed : config.windowMs.toNat ≤ second.toNat - first.toNat) :
    Machine.collect (Monitored.step sampleLaplace) releaseTime
        ⟨metrics, .fromParts config rng⟩ [.scrape first, .scrape second] =
      [first, second] := by
  have released : (DpExporter.release sampleLaplace
      (.fromParts config rng) first metrics.lifetimeVec).2.answer second =
        none := by
    rw [DpExporter.answer_isNone_iff (by simp),
      first_release_releasesDone, DpExporter.release_config,
      release_windowStartMs]
    have sameConfig : (DpExporter.fromParts config rng).config = config := rfl
    rw [sameConfig]
    refine ⟨elapsed, ?_⟩
    intro max capped
    rw [← UInt32.not_le]
    intro spent
    exact unlimited ⟨max, capped, spent⟩
  have unanswered : (DpExporter.fromParts config rng).answer first = none :=
    rfl
  have firstTime : releaseTime ⟨metrics, .fromParts config rng⟩
      (.scrape first) = some first :=
    releaseTime_scrape unanswered
  have stepped : Monitored.step sampleLaplace
      ⟨metrics, .fromParts config rng⟩ (.scrape first) =
        ⟨metrics, (DpExporter.release sampleLaplace (.fromParts config rng)
          first metrics.lifetimeVec).2⟩ := by
    rw [step_scrape, unanswered]
  have secondTime : releaseTime ⟨metrics, (DpExporter.release sampleLaplace
      (.fromParts config rng) first metrics.lifetimeVec).2⟩
        (.scrape second) = some second :=
    releaseTime_scrape released
  rw [Machine.collect, Machine.collect, stepped, firstTime, secondTime]
  rfl

/-- The releases are a window apart in every run exactly if there is at most
one of them or the window is a whole number of milliseconds that fits. -/
theorem releases_spaced_iff (sampleLaplace : Float → R → Float × R)
    (config : DpExportConfig) (rng : R) (metrics : SyncEngineMetrics) :
    (∀ calls, SpacedRun sampleLaplace config
        ⟨metrics, .fromParts config rng⟩ calls) ↔
      config.SingleRelease ∨ config.WholeWindow := by
  constructor
  · intro spacedRuns
    by_contra uncovered
    obtain ⟨unlimited, broken⟩ := not_or.mp uncovered
    have pair {first second : UInt64}
        (elapsed : config.windowMs.toNat ≤ second.toNat - first.toNat) :
        config.window.Apart first second := by
      have chain := (spacedRuns [.scrape first, .scrape second]).apart
      rw [releaseTime_pair sampleLaplace rng metrics unlimited elapsed]
        at chain
      exact List.isChain_pair.mp chain
    have rounded := config.windowMs_le
    have zero : (0 : UInt64).toNat = 0 := rfl
    have one : (1 : UInt64).toNat = 1 := rfl
    have compared : config.window.Apart 0 config.windowMs :=
      pair (by rw [zero, Nat.sub_zero])
    unfold Duration.Apart at compared
    apply broken
    refine ⟨?_, by omega⟩
    by_contra empty
    have backwards : config.window.Apart 1 0 := pair (by omega)
    unfold Duration.Apart at backwards
    omega
  · intro spaced calls
    refine ⟨isChain_releaseTime sampleLaplace rng metrics spaced calls, ?_⟩
    intro before now rest _ last latest early
    have timed := timed_run sampleLaplace config rng metrics before
    rw [step_scrape]
    split
    · rfl
    · rename_i released
      exact absurd (timed.apart spaced latest released) early

/-- A window of one and a half milliseconds is over after one. -/
theorem releases_within_window :
    let noise (_ : Float) (rng : Unit) : Float × Unit := (0.0, rng)
    let config : DpExportConfig := ⟨1.0, ⟨0, 1500000⟩, none⟩
    let start : Monitored Unit := ⟨.new, .fromParts config ()⟩
    1000000 ≤ config.window.asNanos ∧
      Machine.collect (Monitored.step noise) releaseTime start
        [.scrape 0, .scrape 1] = [0, 1] ∧
      ¬ config.window.Apart 0 1 := by
  intro noise config start
  have apart : ¬ config.window.Apart 0 1 := by
    unfold Duration.Apart
    decide
  refine ⟨by decide, ?_, apart⟩
  apply releaseTime_pair noise () .new
  · rintro ⟨max, capped, single⟩
    cases capped
  · decide

end Monitored

end StellarConduit
