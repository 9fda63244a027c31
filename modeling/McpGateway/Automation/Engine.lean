import McpGateway.Services.ControlService
import McpGateway.Tcm.StatePool

/-!
# The automation engine

`automation_engine.c`: the rule table with its copy in flash, and
`automation_task`, which evaluates a snapshot of the rules every 200 ms. The
timing state of a rule is in three arrays under the index of the rule. A step
of the task ends where it calls another module; edits come between any two
steps. The audit ring is left out.
-/

namespace McpGateway.Automation

open McpGateway.Lib McpGateway.Tcm McpGateway.Amm McpGateway.Services

def automationMaxRules : Nat := 16

/-- `automation_operator_t`; `automation_upsert_rule` rejects other numbers. -/
inductive RuleOperator
  | gt | gte | lt | lte | eq | neq
  deriving DecidableEq, Repr

inductive RuleAction
  | writePoint | mqttAlert
  deriving DecidableEq, Repr

/-- `automation_rule_t`. -/
structure AutomationRule where
  id : SeqId
  enabled : Bool
  name : CBuf 48
  sourceDevice : CBuf 32
  sourcePoint : CBuf 32
  conditionOperator : RuleOperator
  threshold : CFloat
  hysteresis : CFloat
  holdMs : UInt32
  cooldownMs : UInt32
  interlockDevice : CBuf 32
  interlockPoint : CBuf 32
  interlockRequiredState : Bool
  action : RuleAction
  targetDevice : CBuf 32
  targetPoint : CBuf 32
  targetValue : CFloat
  alertTopic : CBuf 96
  alertMessage : CBuf 128
  deriving DecidableEq

/-! ## Evaluating a rule -/

/-- `0.0001f`. -/
def equalityTolerance : CFloat := toFloat (.fin (1 / 10000))

def conditionMatches (rule : AutomationRule) (value : CFloat) (wasActive : Bool) : Bool :=
  let hysteresis := rule.hysteresis.fmax (.fin 0)
  match rule.conditionOperator with
  | .gt =>
    if wasActive then (rule.threshold.sub hysteresis).lt value else rule.threshold.lt value
  | .gte =>
    if wasActive then (rule.threshold.sub hysteresis).le value else rule.threshold.le value
  | .lt =>
    if wasActive then value.lt (rule.threshold.add hysteresis) else value.lt rule.threshold
  | .lte =>
    if wasActive then value.le (rule.threshold.add hysteresis) else value.le rule.threshold
  | .eq => (value.sub rule.threshold).abs.le (rule.hysteresis.fmax equalityTolerance)
  | .neq => (rule.hysteresis.fmax equalityTolerance).lt (value.sub rule.threshold).abs

def interlockAllows (rule : AutomationRule) (pool : StatePool) : Bool :=
  if rule.interlockDevice.str = [] ∨ rule.interlockPoint.str = [] then true
  else match tcmStatePoolGet rule.interlockDevice.str rule.interlockPoint.str pool with
    | none => false
    | some state =>
      decide (state.value.ne0 = rule.interlockRequiredState) &&
        decide (state.qualityState = .good)

/-- What `execute_rule` finds: the mapping table with the answer of the device,
the prefix of the MQTT topics and the result of `mqtt_publish`. -/
structure ExecEnv where
  control : ControlEnv
  amm : AmmTable
  answer : EspErr
  dataPrefix : CStr
  publish : EspErr

inductive RuleEffect
  | write (sent : Option ModbusWrite)
  | alert (topic payload : CStr)
  deriving DecidableEq

def alertTopicOf (rule : AutomationRule) (dataPrefix : CStr) : CStr :=
  if rule.alertTopic.str ≠ [] then strlcpy 128 rule.alertTopic.str
  else strlcpy 128 (dataPrefix ++ "alerts".toList)

def alertPayload (rule : AutomationRule) (state : TcmContext) : CStr :=
  strlcpy 512 ("\x7b\"rule_id\":".toList ++ printDecimal rule.id.val ++ ",\"rule\":\"".toList ++
    rule.name.str ++ "\",\"device_id\":\"".toList ++ state.deviceId.str ++
    "\",\"point_id\":\"".toList ++ state.pointId.str ++ "\",\"value\":".toList ++
    state.value.printG ++ ",\"message\":\"".toList ++ rule.alertMessage.str ++ "\"\x7d".toList)

def executeRule (env : ExecEnv) (rule : AutomationRule) (state : TcmContext) :
    EspErr × RuleEffect :=
  match rule.action with
  | .writePoint =>
    let r := controlServiceWritePoint env.control env.amm rule.targetDevice.str
      rule.targetPoint.str rule.targetValue .automation env.answer
    (r.1.status, .write r.2)
  | .mqttAlert =>
    (env.publish, .alert (alertTopicOf rule env.dataPrefix) (alertPayload rule state))

/-! ## The rules and the task -/

/-- The blob under `rules_v1`, as `save_locked` writes it. -/
structure PersistedRules where
  nextId : SeqId
  rules : List AutomationRule
  deriving DecidableEq

/-- How the NVS calls of `save_locked` end. -/
structure SaveEnv where
  «open» : EspErr
  set : EspErr
  commit : EspErr

/-- `automation_stats_t`. -/
structure AutomationStats where
  evaluations : UInt32
  triggers : UInt32
  failures : UInt32
  deriving DecidableEq

/-- Where `automation_task` stands in its snapshot: before rule `i`, at the
interlock of rule `i`, or in the action of rule `i`. -/
inductive AutomationTask
  | idle
  | scanning (snapshot : List AutomationRule) (now : Int) (i : Nat)
  | due (snapshot : List AutomationRule) (now : Int) (i : Nat) (rule : AutomationRule)
      (state : TcmContext)
  | acting (snapshot : List AutomationRule) (now : Int) (i : Nat) (rule : AutomationRule)
      (state : TcmContext)

namespace AutomationTask

def snapshot : AutomationTask → List AutomationRule
  | idle => []
  | scanning snapshot _ _ => snapshot
  | due snapshot _ _ _ _ => snapshot
  | acting snapshot _ _ _ _ => snapshot

/-- The rule at its interlock, and the state it was evaluated on. -/
def dueSample : AutomationTask → Option (AutomationRule × TcmContext)
  | due _ _ _ rule state => some (rule, state)
  | _ => none

end AutomationTask

structure AutomationEngine where
  rules : List AutomationRule
  nextId : SeqId
  conditionSince : Nat → Int
  lastTrigger : Nat → Int
  conditionActive : Nat → Bool
  stats : AutomationStats
  saved : Option PersistedRules
  task : AutomationTask
  /-- `esp_timer_get_time`, in microseconds. -/
  timer : Nat

/-- `automation_init` on the stored rules, and the start of the task. -/
def AutomationEngine.boot (saved : Option PersistedRules) (timer : Nat) : AutomationEngine where
  rules := match saved with
    | some p => if p.rules.length ≤ automationMaxRules then p.rules else []
    | none => []
  nextId := match saved with
    | some p => if p.rules.length ≤ automationMaxRules ∧ p.nextId ≠ 0 then p.nextId else 1
    | none => 1
  conditionSince := fun _ => 0
  lastTrigger := fun _ => 0
  conditionActive := fun _ => false
  stats := ⟨0, 0, 0⟩
  saved := saved
  task := .idle
  timer := timer

namespace AutomationEngine

def saveLocked (s : AutomationEngine) (env : SaveEnv) : EspErr × AutomationEngine :=
  if env.open ≠ .ok then (env.open, s)
  else if env.set ≠ .ok then (env.set, s)
  else (env.commit, { s with saved := some ⟨s.nextId, s.rules⟩ })

/-! ### Edits -/

def slotOf (s : AutomationEngine) (id : SeqId) : Option Nat :=
  if id ≠ 0 then s.rules.findIdx? fun r => r.id = id else none

/-- `*rule` with its id and the default cooldown. -/
def filled (s : AutomationEngine) (rule : AutomationRule) : AutomationRule :=
  { rule with
    id := if rule.id = 0 then s.nextId else rule.id
    cooldownMs := if rule.cooldownMs = 0 then 1000 else rule.cooldownMs }

def storeRule (s : AutomationEngine) (rule : AutomationRule) (slot : Nat)
    (rules : List AutomationRule) : AutomationEngine :=
  { s with
    rules := rules
    nextId := if rule.id = 0 then s.nextId + 1 else s.nextId
    conditionSince := Function.update s.conditionSince slot 0
    lastTrigger := Function.update s.lastTrigger slot 0 }

/-- Where `automation_upsert_rule` puts a rule, and the rules then. -/
def upsertPlan (s : AutomationEngine) (rule : AutomationRule) :
    Except EspErr (Nat × List AutomationRule) :=
  if rule.sourceDevice.str = [] ∨ rule.sourcePoint.str = [] then .error .invalidArg
  else match s.slotOf rule.id with
    | some slot => .ok (slot, s.rules.set slot (s.filled rule))
    | none =>
      if s.rules.length ≥ automationMaxRules then .error .noMem
      else .ok (s.rules.length, s.rules ++ [s.filled rule])

def automationUpsertRule (s : AutomationEngine) (rule : AutomationRule) (env : SaveEnv) :
    EspErr × AutomationEngine :=
  match s.upsertPlan rule with
  | .error err => (err, s)
  | .ok (slot, rules) => (s.storeRule rule slot rules).saveLocked env

/-- The rules without one, and the timers of every slot cleared. -/
def dropRule (s : AutomationEngine) (i : Nat) : AutomationEngine :=
  { s with
    rules := s.rules.eraseIdx i
    conditionSince := fun _ => 0
    lastTrigger := fun _ => 0 }

def automationDeleteRule (s : AutomationEngine) (id : SeqId) (env : SaveEnv) :
    EspErr × AutomationEngine :=
  match s.rules.findIdx? fun r => r.id = id with
  | none => (.notFound, s)
  | some i => (s.dropRule i).saveLocked env

/-! ### The task -/

def uptime (s : AutomationEngine) : Int := (s.timer / 1000 : Nat)

/-- `automation_get_rules` and the time of the evaluations. -/
def cycle (s : AutomationEngine) : AutomationEngine :=
  match s.task with
  | .idle => { s with task := .scanning s.rules s.uptime 0 }
  | _ => s

/-- `s_condition_since[i]` of a rule whose condition holds at `now`. -/
def sinceAt (s : AutomationEngine) (now : Int) (i : Nat) : Int :=
  if s.conditionSince i = 0 then now else s.conditionSince i

/-- The hold time and the cooldown of rule `i` are over. -/
def timersOver (s : AutomationEngine) (rule : AutomationRule) (now : Int) (i : Nat) : Bool :=
  !(decide (now - s.sinceAt now i < rule.holdMs.toNat) ||
    decide (now - s.lastTrigger i < rule.cooldownMs.toNat))

/-- Does rule `i` match the value? -/
def matched (s : AutomationEngine) (rule : AutomationRule) (i : Nat) (state : TcmContext) : Bool :=
  conditionMatches rule (toFloat state.value) (s.conditionActive i)

def evaluate (s : AutomationEngine) (snapshot : List AutomationRule) (now : Int) (i : Nat)
    (rule : AutomationRule) (state : TcmContext) : AutomationEngine :=
  { s with
    stats := { s.stats with evaluations := s.stats.evaluations + 1 }
    conditionActive := Function.update s.conditionActive i (s.matched rule i state)
    conditionSince :=
      Function.update s.conditionSince i (if s.matched rule i state then s.sinceAt now i else 0)
    task :=
      if s.matched rule i state && s.timersOver rule now i then .due snapshot now i rule state
      else .scanning snapshot now (i + 1) }

/-- The state a rule is evaluated on; one that is disabled or has none is passed over. -/
def sampleOf (rule : AutomationRule) (pool : StatePool) : Option TcmContext :=
  if rule.enabled = false then none
  else tcmStatePoolGet rule.sourceDevice.str rule.sourcePoint.str pool

/-- The loop reaches rule `i`, or its end. -/
def check (s : AutomationEngine) (pool : StatePool) : AutomationEngine :=
  match s.task with
  | .scanning snapshot now i =>
    match snapshot[i]? with
    | none => { s with task := .idle }
    | some rule =>
      match sampleOf rule pool with
      | none => { s with task := .scanning snapshot now (i + 1) }
      | some state => s.evaluate snapshot now i rule state
  | _ => s

/-- `s_last_trigger[i] = now`, and on to the next rule. -/
def triggered (s : AutomationEngine) (snapshot : List AutomationRule) (now : Int) (i : Nat) :
    AutomationEngine :=
  { s with
    lastTrigger := Function.update s.lastTrigger i now
    task := .scanning snapshot now (i + 1) }

def countFailure (s : AutomationEngine) : AutomationEngine :=
  { s with stats := { s.stats with failures := s.stats.failures + 1 } }

def countTrigger (s : AutomationEngine) : AutomationEngine :=
  { s with stats := { s.stats with triggers := s.stats.triggers + 1 } }

def interlock (s : AutomationEngine) (pool : StatePool) : AutomationEngine :=
  match s.task with
  | .due snapshot now i rule state =>
    if interlockAllows rule pool then { s with task := .acting snapshot now i rule state }
    else s.countFailure.triggered snapshot now i
  | _ => s

/-- `execute_rule` returns. -/
def finish (s : AutomationEngine) (env : ExecEnv) : AutomationEngine :=
  match s.task with
  | .acting snapshot now i rule state =>
    (if (executeRule env rule state).1 = .ok then s.countTrigger else s.countFailure).triggered
      snapshot now i
  | _ => s

end AutomationEngine

inductive EngineStep
  | upsert (rule : AutomationRule) (env : SaveEnv)
  | delete (id : SeqId) (env : SaveEnv)
  | wait (elapsed : Nat)
  | cycle
  | check (pool : StatePool)
  | interlock (pool : StatePool)
  | finish (env : ExecEnv)

def AutomationEngine.step (s : AutomationEngine) : EngineStep → AutomationEngine
  | .upsert rule env => (s.automationUpsertRule rule env).2
  | .delete id env => (s.automationDeleteRule id env).2
  | .wait elapsed => { s with timer := s.timer + elapsed }
  | .cycle => s.cycle
  | .check pool => s.check pool
  | .interlock pool => s.interlock pool
  | .finish env => s.finish env

/-! ## Evaluations -/

/-- A rule evaluated by a step, with its place in the snapshot. -/
structure Evaluation where
  snapshot : List AutomationRule
  now : Int
  i : Nat
  rule : AutomationRule
  state : TcmContext

namespace AutomationEngine

def evaluation (s : AutomationEngine) (pool : StatePool) : Option Evaluation :=
  match s.task with
  | .scanning snapshot now i =>
    snapshot[i]?.bind fun rule =>
      (sampleOf rule pool).map fun state => ⟨snapshot, now, i, rule, state⟩
  | _ => none

/-- The engine goes on to the interlock of the evaluated rule. -/
def acts (s : AutomationEngine) (e : Evaluation) : Bool :=
  s.matched e.rule e.i e.state && s.timersOver e.rule e.now e.i

end AutomationEngine

def Evaluation.after (e : Evaluation) (s : AutomationEngine) : AutomationEngine :=
  s.evaluate e.snapshot e.now e.i e.rule e.state

theorem after_task (e : Evaluation) (s : AutomationEngine) : (e.after s).task =
    if s.acts e then .due e.snapshot e.now e.i e.rule e.state
    else .scanning e.snapshot e.now (e.i + 1) := rfl

theorem after_snapshot (e : Evaluation) (s : AutomationEngine) :
    (e.after s).task.snapshot = e.snapshot := by
  rw [after_task]
  split <;> rfl

theorem evaluation_eq_some {s : AutomationEngine} {pool : StatePool} {e : Evaluation}
    (h : s.evaluation pool = some e) :
    s.task = .scanning e.snapshot e.now e.i ∧ e.snapshot[e.i]? = some e.rule ∧
      s.check pool = e.after s := by
  unfold AutomationEngine.evaluation at h
  split at h
  · rename_i snapshot now i htask
    obtain ⟨rule, hrule, hsample⟩ := Option.bind_eq_some_iff.1 h
    obtain ⟨state, hstate, rfl⟩ := Option.map_eq_some_iff.1 hsample
    refine ⟨htask, hrule, ?_⟩
    simp only [AutomationEngine.check, htask, hrule, hstate, Evaluation.after]
  · cases h

theorem evaluation_of_sample {s : AutomationEngine} {pool : StatePool}
    {snapshot : List AutomationRule} {now : Int} {i : Nat} {rule : AutomationRule}
    {state : TcmContext} (htask : s.task = .scanning snapshot now i)
    (hrule : snapshot[i]? = some rule)
    (hsample : AutomationEngine.sampleOf rule pool = some state) :
    s.evaluation pool = some ⟨snapshot, now, i, rule, state⟩ := by
  simp only [AutomationEngine.evaluation, htask, hrule, Option.bind_some, hsample, Option.map_some]

theorem evaluation_sample {s : AutomationEngine} {pool : StatePool} {e : Evaluation}
    (h : s.evaluation pool = some e) : e.rule ∈ s.task.snapshot ∧ e.rule.enabled = true ∧
      e.state ∈ pool.states := by
  obtain ⟨htask, hrule, -⟩ := evaluation_eq_some h
  refine ⟨?_, ?_⟩
  · rw [htask]
    exact List.mem_of_getElem? hrule
  · have hsample : AutomationEngine.sampleOf e.rule pool = some e.state := by
      unfold AutomationEngine.evaluation at h
      rw [htask] at h
      simp only [hrule, Option.bind_some, Option.map_eq_some_iff] at h
      obtain ⟨state, hstate, hx⟩ := h
      rw [hstate, ← hx]
    unfold AutomationEngine.sampleOf at hsample
    split at hsample
    · cases hsample
    · exact ⟨Bool.eq_true_of_not_eq_false ‹_›, List.mem_of_find?_eq_some hsample⟩

theorem evaluation_eq_none {s : AutomationEngine} {pool : StatePool}
    (h : s.evaluation pool = none) : s.check pool = s ∨
      ∃ snapshot now i, s.task = .scanning snapshot now i ∧
        (snapshot[i]? = none ∧ s.check pool = { s with task := .idle } ∨
          s.check pool = { s with task := .scanning snapshot now (i + 1) }) := by
  unfold AutomationEngine.evaluation at h
  split at h
  · rename_i snapshot now i htask
    refine .inr ⟨snapshot, now, i, htask, ?_⟩
    cases hrule : snapshot[i]? with
    | none => exact .inl ⟨rfl, by simp only [AutomationEngine.check, htask, hrule]⟩
    | some rule =>
      rw [hrule, Option.bind_some, Option.map_eq_none_iff] at h
      exact .inr (by simp only [AutomationEngine.check, htask, hrule, h])
  · rename_i htask
    refine .inl ?_
    unfold AutomationEngine.check
    split
    · exact absurd ‹_› (htask _ _ _)
    · rfl

end McpGateway.Automation
