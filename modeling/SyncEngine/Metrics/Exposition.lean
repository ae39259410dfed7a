import SyncEngine.Data.Text
import SyncEngine.Metrics.Conservation

namespace StellarConduit

open Data Text

/-! The text that a scraper reads. -/

/-- The three lines of one counter. -/
def counterLines (name help : String) (value : UInt64) : List String :=
  ["# HELP " ++ (name ++ " " ++ help), "# TYPE " ++ (name ++ " counter"),
    name ++ " " ++ value.toNat.repr]

def SyncEngineMetrics.toPrometheusText (metrics : SyncEngineMetrics) :
    String :=
  let snapshot := metrics.snapshot
  joinLines (
    counterLines "stellarconduit_sync_queued_total"
      "Total number of envelopes ever queued." snapshot.queuedTotal ++
    counterLines "stellarconduit_sync_settled_total"
      "Total number of envelopes successfully settled on-chain."
      snapshot.settledTotal ++
    counterLines "stellarconduit_sync_failed_total"
      "Total number of envelopes that failed to settle."
      snapshot.failedTotal ++
    counterLines "stellarconduit_sync_conflicts_detected_total"
      "Total number of double-spend conflicts detected."
      snapshot.conflictsDetected ++
    counterLines "stellarconduit_sync_disputes_escalated_total"
      "Total number of conflicts escalated to on-chain dispute resolver."
      snapshot.disputesEscalated ++
    counterLines "stellarconduit_sync_queue_evictions_total"
      "Total number of envelopes evicted from queue due to staleness or TTL."
      snapshot.queueEvictions)

/-- A line of the exposition format: a comment, or a name and a value. -/
def sample (line : List Char) : Option (String × Nat) :=
  match words line with
  | [name, value] =>
      if name = ['#'] then none
      else (readNat value).map fun value => (String.ofList name, value)
  | _ => none

def samples (text : String) : List (String × Nat) :=
  (toLines text.toList).filterMap sample

theorem sample_comment (rest : List Char) :
    sample ('#' :: ' ' :: rest) = none := by
  have front : '#' :: ' ' :: rest = ['#'] ++ ' ' :: rest := rfl
  have isWord : Word ['#'] := by decide
  rw [sample, front, words_append_cons rfl, isWord.words]
  split
  · rename_i name value split
    rw [← (List.cons.inj split).1, if_pos rfl]
  · rfl

theorem sample_value {name : String} (isWord : Word name.toList)
    (named : name.toList ≠ ['#']) (n : Nat) :
    sample (name ++ " " ++ n.repr).toList = some (name, n) := by
  have line : (name ++ " " ++ n.repr).toList =
      name.toList ++ ' ' :: n.repr.toList := by
    simp only [String.toList_append, List.append_assoc]
    rfl
  rw [sample, line, words_append_cons rfl, isWord.words,
    (word_natRepr n).words]
  dsimp only [List.cons_append, List.nil_append]
  rw [if_neg named, readNat_repr, Option.map_some, String.ofList_toList]

theorem filterMap_counterLines {name : String} (help : String)
    (isWord : Word name.toList) (named : name.toList ≠ ['#'])
    (value : UInt64) :
    ((counterLines name help value).map String.toList).filterMap sample =
      [(name, value.toNat)] := by
  have helped : sample ("# HELP " ++ (name ++ " " ++ help)).toList = none := by
    rw [String.toList_append]
    exact sample_comment _
  have typed : sample ("# TYPE " ++ (name ++ " counter")).toList = none := by
    rw [String.toList_append]
    exact sample_comment _
  rw [counterLines, List.map_cons, List.map_cons, List.map_singleton,
    List.filterMap_cons_none helped, List.filterMap_cons_none typed,
    List.filterMap_cons_some (sample_value isWord named _), List.filterMap_nil]

theorem counterLines_single {name help : String} (value : UInt64)
    (named : '\n' ∉ name.toList) (helped : '\n' ∉ help.toList) :
    ∀ line ∈ counterLines name help value, '\n' ∉ line.toList := by
  have number := (word_natRepr value.toNat).no_newline
  simp only [counterLines, List.mem_cons, List.not_mem_nil, or_false,
    forall_eq_or_imp, forall_eq, String.toList_append, List.mem_append, named,
    helped, number]
  decide

theorem samples_joinLines {lines : List String}
    (single : ∀ line ∈ lines, '\n' ∉ line.toList) :
    samples (joinLines lines) = (lines.map String.toList).filterMap sample := by
  rw [samples, joinLines, String.toList_ofList,
    toLines_unlines (by simpa using single)]

/-- A scraper reads six counters, in the order they are exported. -/
theorem samples_toPrometheusText (metrics : SyncEngineMetrics) :
    samples metrics.toPrometheusText = [
      ("stellarconduit_sync_queued_total", metrics.queuedTotal.toNat),
      ("stellarconduit_sync_settled_total", metrics.settledTotal.toNat),
      ("stellarconduit_sync_failed_total", metrics.failedTotal.toNat),
      ("stellarconduit_sync_conflicts_detected_total",
        metrics.conflictsDetected.toNat),
      ("stellarconduit_sync_disputes_escalated_total",
        metrics.disputesEscalated.toNat),
      ("stellarconduit_sync_queue_evictions_total",
        metrics.queueEvictions.toNat)] := by
  rw [SyncEngineMetrics.toPrometheusText, samples_joinLines]
  · simp only [List.map_append, List.filterMap_append]
    rw [filterMap_counterLines _ (by decide) (by decide),
      filterMap_counterLines _ (by decide) (by decide),
      filterMap_counterLines _ (by decide) (by decide),
      filterMap_counterLines _ (by decide) (by decide),
      filterMap_counterLines _ (by decide) (by decide),
      filterMap_counterLines _ (by decide) (by decide)]
    rfl
  · simp only [List.forall_mem_append]
    refine ⟨⟨⟨⟨⟨?_, ?_⟩, ?_⟩, ?_⟩, ?_⟩, ?_⟩
    all_goals exact counterLines_single _ (by decide) (by decide)

/-! Runs of the counters. -/

namespace MonitoredCall

def isReset : MonitoredCall → Bool
  | .snapshotAndReset => true
  | _ => false

def records (metric : Metric) : MonitoredCall → Bool
  | .record recorded => recorded = metric
  | _ => false

/-- How often a counter has been recorded since the last reset. -/
def sinceReset (metric : Metric) (calls : List MonitoredCall) : Nat :=
  (calls.rtakeWhile fun call => !call.isReset).countP (records metric)

theorem sinceReset_snoc (metric : Metric) (calls : List MonitoredCall)
    (call : MonitoredCall) :
    sinceReset metric (calls ++ [call]) =
      if call.isReset then 0
      else sinceReset metric calls +
        if call.records metric then 1 else 0 := by
  unfold sinceReset
  cases reset : call.isReset with
  | true =>
      rw [List.rtakeWhile_concat_neg _ _ _ (by simp [reset])]
      rfl
  | false =>
      rw [List.rtakeWhile_concat_pos _ _ _ (by simp [reset]),
        List.countP_append, List.countP_singleton]
      rfl

end MonitoredCall

namespace Monitored

variable {R : Type} (sampleLaplace : Float → R → Float × R)

/-- What a call does to the counters. The exporter leaves them alone. -/
theorem metrics_perform (state : Monitored R) (call : MonitoredCall)
    (metric : Metric) :
    (state.perform sampleLaplace call).metrics.lifetime metric =
        (if call.isReset then 0
        else state.metrics.lifetime metric +
          if call.records metric then 1 else 0) ∧
      (state.metrics.queueEvictions = 0 →
        (state.perform sampleLaplace call).metrics.queueEvictions = 0) := by
  cases call with
  | record recorded =>
      refine ⟨?_, fun none => by cases recorded <;> exact none⟩
      show (state.metrics.record recorded).lifetime metric = _
      rw [SyncEngineMetrics.lifetime_record]
      by_cases same : recorded = metric
      · simp [MonitoredCall.isReset, MonitoredCall.records, same]
      · simp [MonitoredCall.isReset, MonitoredCall.records, same]
  | snapshot => exact ⟨(UInt64.add_zero _).symm, id⟩
  | snapshotAndReset =>
      exact ⟨state.metrics.lifetime_reset metric, fun _ => rfl⟩
  | scrape now => exact ⟨(UInt64.add_zero _).symm, id⟩

/-- From zero, a counter is at what was recorded since the last reset. -/
theorem lifetime_run (exporter : DpExporter R) (calls : List MonitoredCall)
    (metric : Metric) :
    let state := Machine.run (perform sampleLaplace) ⟨.new, exporter⟩ calls
    (state.metrics.lifetime metric).toNat =
        MonitoredCall.sinceReset metric calls % 2 ^ 64 ∧
      state.metrics.queueEvictions = 0 := by
  induction calls using List.reverseRecOn with
  | nil => cases metric <;> exact ⟨rfl, rfl⟩
  | append_singleton calls call induction =>
      obtain ⟨counted, none⟩ := induction
      obtain ⟨performed, still⟩ := metrics_perform sampleLaplace
        (Machine.run (perform sampleLaplace) ⟨.new, exporter⟩ calls) call
        metric
      rw [Machine.run_snoc, MonitoredCall.sinceReset_snoc]
      refine ⟨?_, still none⟩
      rw [performed]
      split
      · rfl
      · rw [UInt64.toNat_add, counted, Nat.mod_add_mod]
        split
        · rfl
        · rfl

/-- In every run of the counters from zero, whatever is scraped or reset in
between, the text shows what was recorded since the last reset, each counter
under its own name, and no evictions ever. -/
theorem exposition_counts (exporter : DpExporter R)
    (calls : List MonitoredCall) :
    let state := Machine.run (perform sampleLaplace) ⟨.new, exporter⟩ calls
    let shown (metric : Metric) :=
      MonitoredCall.sinceReset metric calls % 2 ^ 64
    samples state.metrics.toPrometheusText = [
      ("stellarconduit_sync_queued_total", shown .queued),
      ("stellarconduit_sync_settled_total", shown .settled),
      ("stellarconduit_sync_failed_total", shown .failed),
      ("stellarconduit_sync_conflicts_detected_total", shown .conflict),
      ("stellarconduit_sync_disputes_escalated_total",
        shown .disputeEscalated),
      ("stellarconduit_sync_queue_evictions_total", 0)] := by
  intro state shown
  have counted (metric : Metric) :=
    (lifetime_run sampleLaplace exporter calls metric).1
  have evictions : state.metrics.queueEvictions = 0 :=
    (lifetime_run sampleLaplace exporter calls .queued).2
  have queued : state.metrics.queuedTotal.toNat = shown .queued :=
    counted .queued
  have settled : state.metrics.settledTotal.toNat = shown .settled :=
    counted .settled
  have failed : state.metrics.failedTotal.toNat = shown .failed :=
    counted .failed
  have conflicts : state.metrics.conflictsDetected.toNat = shown .conflict :=
    counted .conflict
  have disputes : state.metrics.disputesEscalated.toNat =
      shown .disputeEscalated := counted .disputeEscalated
  rw [samples_toPrometheusText, queued, settled, failed, conflicts, disputes,
    evictions]
  rfl

end Monitored

end StellarConduit
