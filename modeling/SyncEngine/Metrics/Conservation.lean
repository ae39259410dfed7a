import SyncEngine.Data.Meter
import SyncEngine.Metrics.Budget

namespace StellarConduit

open Data

namespace Metric

/-- The place of a counter in `lifetime_vec`. -/
def index : Metric → Fin 5
  | .queued => 0
  | .settled => 1
  | .failed => 2
  | .conflict => 3
  | .disputeEscalated => 4

end Metric

namespace SyncEngineMetrics

def record (metrics : SyncEngineMetrics) : Metric → SyncEngineMetrics
  | .queued => metrics.recordQueued
  | .settled => metrics.recordSettled
  | .failed => metrics.recordFailed
  | .conflict => metrics.recordConflict
  | .disputeEscalated => metrics.recordDisputeEscalated

def lifetime (metrics : SyncEngineMetrics) (metric : Metric) : UInt64 :=
  metrics.lifetimeVec[metric.index]

theorem lifetime_record (metrics : SyncEngineMetrics)
    (recorded metric : Metric) :
    (metrics.record recorded).lifetime metric =
      if recorded = metric then metrics.lifetime metric + 1
      else metrics.lifetime metric := by
  cases recorded <;> cases metric <;> rfl

theorem lifetime_reset (metrics : SyncEngineMetrics) (metric : Metric) :
    metrics.snapshotAndReset.2.lifetime metric = 0 := by
  cases metric <;> rfl

end SyncEngineMetrics

/-- What a device does with its counters. -/
inductive MonitoredCall
  | record (metric : Metric)
  | snapshot
  | snapshotAndReset
  | scrape (now : UInt64)

def MonitoredCall.toMetricsCall : MonitoredCall → MetricsCall
  | .record metric => .update fun metrics => metrics.record metric
  | .snapshot => .update fun metrics => metrics
  | .snapshotAndReset => .update fun metrics => metrics.snapshotAndReset.2
  | .scrape now => .scrape now

namespace Monitored

variable {R : Type} (sampleLaplace : Float → R → Float × R)

def perform (state : Monitored R) (call : MonitoredCall) : Monitored R :=
  state.step sampleLaplace call.toMetricsCall

/-- What a call does to one counter. A scrape that releases no window does
nothing. -/
def event (metric : Metric) (state : Monitored R) :
    MonitoredCall → Option MeterEvent
  | .record recorded => if recorded = metric then some .ticked else none
  | .snapshot => none
  | .snapshotAndReset => some .reset
  | .scrape now =>
      match state.exporter.answer now with
      | some _ => none
      | none => some .released

/-- The true delta of one counter, before noise, in a window that a call
releases. -/
def delta (metric : Metric) (state : Monitored R) : MonitoredCall → Option Nat
  | .scrape now =>
      match state.exporter.answer now with
      | some _ => none
      | none => some (state.exporter.trueDeltas
          state.metrics.lifetimeVec)[metric.index].toNat
  | _ => none

/-- One counter as a meter of the width of `usize`. -/
structure Metered (metric : Metric) (state : Monitored R) (meter : Meter) :
    Prop where
  value : (state.metrics.lifetime metric).toNat = meter.value
  last : state.exporter.lastLifetime[metric.index].toNat = meter.last

variable {metric : Metric} {state : Monitored R}
  {meter : Meter}

theorem Metered.toNat_trueDelta (metered : state.Metered metric meter) :
    (state.exporter.trueDeltas
      state.metrics.lifetimeVec)[metric.index].toNat =
        meter.value - meter.last := by
  have difference : (state.exporter.trueDeltas
      state.metrics.lifetimeVec)[metric.index] =
      EmergencyGuard.saturatingSub (state.metrics.lifetime metric)
        state.exporter.lastLifetime[metric.index] := by
    simp [DpExporter.trueDeltas, SyncEngineMetrics.lifetime]
  rw [difference, EmergencyGuard.toNat_saturatingSub, metered.value,
    metered.last]

theorem Metered.performed (metered : state.Metered metric meter)
    (call : MonitoredCall) :
    (state.perform sampleLaplace call).Metered metric
        (Machine.run (Meter.advance (2 ^ 64)) meter
          (state.event metric call).toList) ∧
      (state.delta metric call).toList =
        Machine.collect (Meter.advance (2 ^ 64)) Meter.gain meter
          (state.event metric call).toList := by
  cases call with
  | record recorded =>
      have counted := state.metrics.lifetime_record recorded metric
      by_cases same : recorded = metric
      · rw [if_pos same] at counted
        simp only [event, if_pos same]
        refine ⟨⟨?_, metered.last⟩, rfl⟩
        show ((state.metrics.record recorded).lifetime metric).toNat =
          (meter.value + 1) % 2 ^ 64
        rw [counted, UInt64.toNat_add, metered.value]
        rfl
      · rw [if_neg same] at counted
        simp only [event, if_neg same]
        refine ⟨⟨?_, metered.last⟩, rfl⟩
        show ((state.metrics.record recorded).lifetime metric).toNat = _
        rw [counted]
        exact metered.value
  | snapshot => exact ⟨⟨metered.value, metered.last⟩, rfl⟩
  | snapshotAndReset =>
      refine ⟨⟨?_, metered.last⟩, rfl⟩
      show (state.metrics.snapshotAndReset.2.lifetime metric).toNat = _
      rw [state.metrics.lifetime_reset]
      rfl
  | scrape now =>
      cases answered : state.exporter.answer now with
      | some answer =>
          have still : state.perform sampleLaplace (.scrape now) = state := by
            simp [perform, MonitoredCall.toMetricsCall, step_scrape, answered]
          rw [still]
          simp only [event, delta, answered]
          exact ⟨metered, rfl⟩
      | none =>
          have released : state.perform sampleLaplace (.scrape now) =
              { state with exporter := (state.exporter.release sampleLaplace
                now state.metrics.lifetimeVec).2 } := by
            simp [perform, MonitoredCall.toMetricsCall, step_scrape, answered]
          rw [released]
          simp only [event, delta, answered]
          refine ⟨⟨metered.value, metered.value⟩, ?_⟩
          rw [metered.toNat_trueDelta]
          rfl

/-- The deltas of one counter are what its meter reads. -/
theorem Metered.collect_delta (metered : state.Metered metric meter)
    (calls : List MonitoredCall) :
    Machine.collect (perform sampleLaplace) (delta metric) state calls =
      Machine.collect (Meter.advance (2 ^ 64)) Meter.gain meter
        (Machine.collect (perform sampleLaplace) (event metric) state
          calls) := by
  induction calls generalizing state meter with
  | nil => rfl
  | cons call rest induction =>
      obtain ⟨performed, read⟩ :=
        metered.performed sampleLaplace call
      rw [Machine.collect, Machine.collect, Machine.collect_append, read,
        induction performed]

/-- The true deltas of all released windows add up to what was recorded before
the last release, for every counter, exactly when no released window has both
increments and drops of one counter: a reset that finds it above zero, or an
increment past its greatest value. -/
theorem deltas_add_up_iff (sampleLaplace : Float → R → Float × R)
    (config : DpExportConfig) (rng : R) (calls : List MonitoredCall) :
    let start : Monitored R := ⟨.new, .fromParts config rng⟩
    let log (metric : Metric) :=
      Machine.collect (perform sampleLaplace) (event metric) start calls
    (∀ metric,
        (Machine.collect (perform sampleLaplace) (delta metric) start
          calls).sum = Meter.ticks (Meter.closed (log metric))) ↔
      ∀ metric, Meter.Unbroken (2 ^ 64) (log metric) := by
  intro start log
  have metered (metric : Metric) : start.Metered metric .new := by
    cases metric <;> exact ⟨rfl, rfl⟩
  apply forall_congr'
  intro metric
  rw [(metered metric).collect_delta]
  exact (Meter.sum_gains (Nat.two_pow_pos 64) _).2

/-- A reset between two releases: the three increments after it are never
released. -/
theorem reset_loses_increments :
    let noise (_ : Float) (rng : Unit) : Float × Unit := (0.0, rng)
    let start : Monitored Unit :=
      ⟨.new, .fromParts ⟨1.0, ⟨60, 0⟩, none⟩ ()⟩
    let calls : List MonitoredCall :=
      List.replicate 10 (.record .queued) ++ [.scrape 0, .snapshotAndReset] ++
        List.replicate 3 (.record .queued) ++ [.scrape 60000]
    let log :=
      Machine.collect (perform noise) (event .queued) start calls
    Machine.collect (perform noise) (delta .queued) start calls = [10, 0] ∧
      Meter.ticks (Meter.closed log) = 13 ∧
      (Machine.collect (perform noise) (delta .queued) start calls).sum ≠
        Meter.ticks (Meter.closed log) := by
  decide +kernel

end Monitored

end StellarConduit
