import SyncEngine.Data.Machine
import SyncEngine.Queue.Priority

namespace StellarConduit

open EmergencyGuard (saturatingSub)

structure MetricsSnapshot where
  queuedTotal : UInt64
  settledTotal : UInt64
  failedTotal : UInt64
  conflictsDetected : UInt64
  disputesEscalated : UInt64
  queueEvictions : UInt64
  deriving DecidableEq

/-- The atomic counters. An addition to one wraps around. -/
structure SyncEngineMetrics where
  queuedTotal : UInt64
  settledTotal : UInt64
  failedTotal : UInt64
  conflictsDetected : UInt64
  disputesEscalated : UInt64
  queueEvictions : UInt64

/-- The counters that are exported, in the order of `lifetime_vec`. -/
inductive Metric
  | queued
  | settled
  | failed
  | conflict
  | disputeEscalated
  deriving DecidableEq

namespace SyncEngineMetrics

def new : SyncEngineMetrics := ⟨0, 0, 0, 0, 0, 0⟩

def snapshot (metrics : SyncEngineMetrics) : MetricsSnapshot where
  queuedTotal := metrics.queuedTotal
  settledTotal := metrics.settledTotal
  failedTotal := metrics.failedTotal
  conflictsDetected := metrics.conflictsDetected
  disputesEscalated := metrics.disputesEscalated
  queueEvictions := metrics.queueEvictions

def snapshotAndReset (metrics : SyncEngineMetrics) :
    MetricsSnapshot × SyncEngineMetrics :=
  (metrics.snapshot, ⟨0, 0, 0, 0, 0, 0⟩)

def recordQueued (metrics : SyncEngineMetrics) : SyncEngineMetrics :=
  { metrics with queuedTotal := metrics.queuedTotal + 1 }

def recordSettled (metrics : SyncEngineMetrics) : SyncEngineMetrics :=
  { metrics with settledTotal := metrics.settledTotal + 1 }

def recordFailed (metrics : SyncEngineMetrics) : SyncEngineMetrics :=
  { metrics with failedTotal := metrics.failedTotal + 1 }

def recordConflict (metrics : SyncEngineMetrics) : SyncEngineMetrics :=
  { metrics with conflictsDetected := metrics.conflictsDetected + 1 }

def recordDisputeEscalated (metrics : SyncEngineMetrics) :
    SyncEngineMetrics :=
  { metrics with disputesEscalated := metrics.disputesEscalated + 1 }

def lifetimeVec (metrics : SyncEngineMetrics) : Vector UInt64 5 :=
  #v[metrics.queuedTotal, metrics.settledTotal, metrics.failedTotal,
    metrics.conflictsDetected, metrics.disputesEscalated]

end SyncEngineMetrics

def l1Sensitivity : Float := 1.0

def laplaceScale (epsilon : Float) : Float := l1Sensitivity / epsilon

inductive DpExportError
  | invalidConfig (reason : String)
  | budgetExhausted (releasesDone maxReleases : UInt32)
  deriving DecidableEq

structure DpExportConfig where
  epsilon : Float
  window : Duration
  maxReleases : Option UInt32

namespace DpExportConfig

def withMaxReleases (config : DpExportConfig) (maxReleases : UInt32) :
    Except DpExportError DpExportConfig :=
  if maxReleases = 0 then
    .error (.invalidConfig "max_releases must be at least 1")
  else
    .ok { config with maxReleases := some maxReleases }

def validate (config : DpExportConfig) : Except DpExportError Unit :=
  if ¬ (config.epsilon > 0.0 ∧ config.epsilon.isFinite) then
    .error (.invalidConfig "epsilon must be finite and strictly positive")
  else if config.window.asNanos < 1000000 then
    .error (.invalidConfig "window must be at least 1ms")
  else if config.maxReleases = some 0 then
    .error (.invalidConfig "max_releases must be at least 1")
  else
    .ok ()

/-- `as_millis() as u64`, which drops the bits that do not fit. -/
def windowMs (config : DpExportConfig) : UInt64 :=
  UInt64.ofNat (config.window.asNanos / 1000000)

end DpExportConfig

structure DpSnapshot where
  queued : Float
  settled : Float
  failed : Float
  conflictsDetected : Float
  disputesEscalated : Float
  epsilon : Float
  releasesDone : UInt32
  window : Duration

/-- The exporter with what is behind its lock. The clock is an argument of
`export`. -/
structure DpExporter (R : Type) where
  config : DpExportConfig
  rng : R
  lastLifetime : Vector UInt64 5
  cached : Option DpSnapshot
  windowStartMs : UInt64
  releasesDone : UInt32

namespace DpExporter

variable {R : Type}

def fromParts (config : DpExportConfig) (rng : R) : DpExporter R where
  config
  rng
  lastLifetime := Vector.replicate 5 0
  cached := none
  windowStartMs := 0
  releasesDone := 0

def new (config : DpExportConfig) (rng : R) :
    Except DpExportError (DpExporter R) := do
  config.validate
  return fromParts config rng

/-- The returns of `export` before it releases a window. -/
def answer (exporter : DpExporter R) (now : UInt64) :
    Option (Except DpExportError DpSnapshot) :=
  exporter.cached.bind fun snap =>
    if saturatingSub now exporter.windowStartMs < exporter.config.windowMs then
      some (.ok snap)
    else
      exporter.config.maxReleases.bind fun max =>
        if exporter.releasesDone ≥ max then
          some (.error (.budgetExhausted exporter.releasesDone max))
        else
          none

def trueDeltas (exporter : DpExporter R) (current : Vector UInt64 5) :
    Vector UInt64 5 :=
  Vector.zipWith saturatingSub current exporter.lastLifetime

/-- The noise that `sample_laplace` draws at a scale, with the generator after
the draws. -/
def addNoise (sampleLaplace : Float → R → Float × R) (scale : Float)
    (delta : UInt64) : StateM R Float := do
  let noise ← sampleLaplace scale
  let noisy := delta.toFloat + noise
  return if noisy > 0.0 then noisy else 0.0

def release (sampleLaplace : Float → R → Float × R)
    (exporter : DpExporter R) (now : UInt64) (current : Vector UInt64 5) :
    DpSnapshot × DpExporter R :=
  let scale := laplaceScale exporter.config.epsilon
  let (noisy, rng) := ((exporter.trueDeltas current).mapM
    (addNoise sampleLaplace scale)).run exporter.rng
  let releasesDone := if exporter.releasesDone = UInt32.ofNat (2 ^ 32 - 1)
    then exporter.releasesDone else exporter.releasesDone + 1
  let snap : DpSnapshot := {
    queued := noisy[0]
    settled := noisy[1]
    failed := noisy[2]
    conflictsDetected := noisy[3]
    disputesEscalated := noisy[4]
    epsilon := exporter.config.epsilon
    releasesDone
    window := exporter.config.window }
  (snap, { exporter with
    rng
    lastLifetime := current
    cached := some snap
    windowStartMs := now
    releasesDone })

end DpExporter

def DpExporter.export (sampleLaplace : Float → R → Float × R)
    (exporter : DpExporter R) (now : UInt64) (metrics : SyncEngineMetrics) :
    Except DpExportError DpSnapshot × DpExporter R :=
  match exporter.answer now with
  | some answer => (answer, exporter)
  | none =>
      let (snap, released) :=
        exporter.release sampleLaplace now metrics.lifetimeVec
      (.ok snap, released)

end StellarConduit
