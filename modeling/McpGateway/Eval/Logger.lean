import Mathlib.Logic.Function.Basic
import McpGateway.Lib.CString

/-!
# Metrics of the evaluation logger

The counters of `eval_logger.c`, which the tasks increment by name.
-/

namespace McpGateway.Eval

open McpGateway.Lib

/-- The fields of `eval_metrics_t`. -/
inductive Metric
  | totalPolls
  | successfulPolls
  | failedPolls
  | contextsCreated
  | contextsValidated
  | contextsRejected
  | mqttPublished
  | mqttFailed
  | cachedRecords
  | replayedRecords
  | dataLossCount
  | commandsReceived
  | commandsAccepted
  | commandsRejected
  | freeHeapMin
  | cpuLoadPercent
  deriving DecidableEq, Repr

/-- The name that `eval_increment_metric` compares for the field. -/
def Metric.name : Metric → CStr
  | .totalPolls => "total_polls".toList
  | .successfulPolls => "successful_polls".toList
  | .failedPolls => "failed_polls".toList
  | .contextsCreated => "contexts_created".toList
  | .contextsValidated => "contexts_validated".toList
  | .contextsRejected => "contexts_rejected".toList
  | .mqttPublished => "mqtt_published".toList
  | .mqttFailed => "mqtt_failed".toList
  | .cachedRecords => "cached_records".toList
  | .replayedRecords => "replayed_records".toList
  | .dataLossCount => "data_loss_count".toList
  | .commandsReceived => "commands_received".toList
  | .commandsAccepted => "commands_accepted".toList
  | .commandsRejected => "commands_rejected".toList
  | .freeHeapMin => "free_heap_min".toList
  | .cpuLoadPercent => "cpu_load_percent".toList

def Metric.all : List Metric :=
  [.totalPolls, .successfulPolls, .failedPolls, .contextsCreated, .contextsValidated,
    .contextsRejected, .mqttPublished, .mqttFailed, .cachedRecords, .replayedRecords,
    .dataLossCount, .commandsReceived, .commandsAccepted, .commandsRejected, .freeHeapMin,
    .cpuLoadPercent]

def metricNamed (name : CStr) : Option Metric := Metric.all.find? fun m => m.name = name

/-- The two fields that are stored, not added up. -/
def Metric.isReading (m : Metric) : Bool := m = .freeHeapMin || m = .cpuLoadPercent

/-- `eval_metrics_t`. -/
abbrev EvalMetrics := Metric → UInt32

def evalInit : EvalMetrics := fun _ => 0

/-- `eval_increment_metric`; `taken` is whether the mutex is taken within 50 ms. -/
def evalIncrementMetric (taken : Bool) (name : CStr) (delta : UInt32) (metrics : EvalMetrics) :
    EvalMetrics :=
  if taken = false then metrics
  else
    match metricNamed name with
    | none => metrics
    | some m => Function.update metrics m (if m.isReading then delta else metrics m + delta)

theorem metricNames_nodup : (Metric.all.map Metric.name).Nodup := by
  have hnames : Metric.all.map Metric.name =
      ["total_polls", "successful_polls", "failed_polls", "contexts_created",
        "contexts_validated", "contexts_rejected", "mqtt_published", "mqtt_failed",
        "cached_records", "replayed_records", "data_loss_count", "commands_received",
        "commands_accepted", "commands_rejected", "free_heap_min",
        "cpu_load_percent"].map String.toList := rfl
  rw [hnames]
  simp only [List.map_cons, List.map_nil]
  -- A literal is `String.ofList` of its characters: they are compared, not its bytes.
  repeat rw [String.toList_ofList]
  decide

theorem metricNamed_name (m : Metric) : metricNamed m.name = some m := by
  have hmem : m ∈ Metric.all := by cases m <;> decide
  cases h : metricNamed m.name with
  | none => exact absurd (decide_eq_true rfl) (List.find?_eq_none.1 h m hmem)
  | some m' =>
    have hname := List.find?_some h
    have hname : m'.name = m.name := of_decide_eq_true hname
    exact congrArg some
      (List.inj_on_of_nodup_map metricNames_nodup (List.mem_of_find?_eq_some h) hmem hname)

theorem evalIncrementMetric_name {m : Metric} (hm : m.isReading = false) (delta : UInt32)
    (metrics : EvalMetrics) (k : Metric) :
    evalIncrementMetric true m.name delta metrics k =
      metrics k + if k = m then delta else 0 := by
  unfold evalIncrementMetric
  rw [metricNamed_name, if_neg (by decide)]
  simp only [hm, Bool.false_eq_true, if_false]
  by_cases hk : k = m
  · subst hk
    rw [Function.update_self, if_pos rfl]
  · rw [Function.update_of_ne hk, if_neg hk, UInt32.add_zero]

end McpGateway.Eval
