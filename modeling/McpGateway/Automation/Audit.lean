import McpGateway.Automation.Engine
import McpGateway.Lib.Ring
import McpGateway.Lib.Run

/-!
# The audit of the automation

What `audit_event` keeps of the decisions of `automation_task`, in a ring of 64 events, and what
`automation_get_audit` and `automation_get_stats` say of them. `decisions_accounted`: each rule
that comes to its action is decided once, counted once and audited once.
-/

namespace McpGateway.Automation

open McpGateway.Lib McpGateway.Tcm

def automationAuditCapacity : Nat := 64

/-- `automation_audit_event_t`. -/
structure AuditEvent where
  timestampMs : Int
  ruleId : SeqId
  success : Bool
  sourceValue : CFloat
  action : CBuf 32
  detail : CBuf 96

def AuditEvent.zero : AuditEvent where
  timestampMs := 0
  ruleId := 0
  success := false
  sourceValue := .fin 0
  action := .empty
  detail := .empty

/-- What `audit_event` writes. -/
def auditEvent (rule : AutomationRule) (state : TcmContext) (success : Bool) (detail : String) :
    AuditEvent where
  timestampMs := state.timestampMs
  ruleId := rule.id
  success := success
  sourceValue := toFloat state.value
  action := .copy 32 (if rule.action = .writePoint then "write_point" else "mqtt_alert").toList
  detail := .copy 96 detail.toList

/-- `s_audit`, `s_audit_head` and `s_audit_count`; the indices stay below 65. -/
structure AuditLog where
  events : Vector AuditEvent automationAuditCapacity
  head : Nat
  count : Nat
  head_lt : head < automationAuditCapacity
  count_le : count ≤ automationAuditCapacity
  head_eq : count < automationAuditCapacity → head = count

namespace AuditLog

def boot : AuditLog where
  events := Vector.replicate automationAuditCapacity .zero
  head := 0
  count := 0
  head_lt := by decide
  count_le := by decide
  head_eq _ := rfl

def add (a : AuditLog) (event : AuditEvent) : AuditLog where
  events := a.events.set a.head event a.head_lt
  head := (a.head + 1) % automationAuditCapacity
  count := if a.count < automationAuditCapacity then a.count + 1 else a.count
  head_lt := Nat.mod_lt _ (by decide)
  count_le := by
    have hle := a.count_le
    split <;> omega
  head_eq := by
    have hle := a.count_le
    split
    · rename_i hroom
      intro hmore
      rw [a.head_eq hroom, Nat.mod_eq_of_lt hmore]
    · exact fun hroom => absurd hroom ‹_›

/-- `s_audit[i % AUTOMATION_AUDIT_CAPACITY]`. -/
def slot (a : AuditLog) (i : Nat) : AuditEvent :=
  a.events.get ⟨i % automationAuditCapacity, Nat.mod_lt i (by decide)⟩

/-- `automation_get_audit`: what it writes to `out`. -/
def get (a : AuditLog) (maxEvents : Int) : List AuditEvent :=
  if maxEvents ≤ 0 then []
  else
    let start := (a.head + automationAuditCapacity - a.count) % automationAuditCapacity
    (List.range (min a.count maxEvents.toNat)).map fun i => a.slot (start + i)

/-! ## The ring -/

def ring (a : AuditLog) : Ring AuditEvent automationAuditCapacity where
  slots := a.events.toList.take a.count
  head := a.head
  head_lt := a.head_lt
  head_eq := by
    rw [List.length_take, Vector.length_toList, Nat.min_eq_left a.count_le]
    exact a.head_eq
  length_le := by
    rw [List.length_take, Vector.length_toList]
    exact Nat.min_le_right _ _

theorem ring_length (a : AuditLog) : a.ring.slots.length = a.count := by
  show (a.events.toList.take a.count).length = _
  rw [List.length_take, Vector.length_toList, Nat.min_eq_left a.count_le]

theorem ring_slot {a : AuditLog} {i : Nat} (h : i < a.count) :
    a.ring.slots[i]? = some (a.slot i) := by
  have hlt : i < automationAuditCapacity := Nat.lt_of_lt_of_le h a.count_le
  show (a.events.toList.take a.count)[i]? = _
  rw [List.getElem?_take_of_lt h, List.getElem?_eq_getElem (by rwa [Vector.length_toList])]
  simp only [slot, Nat.mod_eq_of_lt hlt]
  rfl

theorem ring_add (a : AuditLog) (event : AuditEvent) : (a.add event).ring = a.ring.push event := by
  have hle := a.count_le
  have hhead := a.head_lt
  refine McpGateway.Lib.Ring.ext ?_ rfl
  show (a.events.set a.head event a.head_lt).toList.take _ =
    Ring.written (a.events.toList.take a.count) automationAuditCapacity a.head event
  have hlength : (a.events.toList.take a.count).length = a.count := ring_length a
  unfold Ring.written
  rw [hlength, Vector.toList_set]
  by_cases hroom : a.count < automationAuditCapacity
  · rw [if_pos hroom]
    simp only [add, if_pos hroom]
    rw [a.head_eq hroom, List.take_add_one, List.take_set_of_le (Nat.le_refl _),
      List.getElem?_set_self (by rwa [Vector.length_toList])]
    rfl
  · have hfull : a.count = automationAuditCapacity := Nat.le_antisymm hle (Nat.le_of_not_lt hroom)
    rw [if_neg hroom]
    simp only [add, if_neg hroom]
    rw [List.take_of_length_le (by rw [List.length_set, Vector.length_toList]; omega),
      List.take_of_length_le (by rw [Vector.length_toList]; omega)]

/-- The `i`-th event from the oldest, where the source looks for it. -/
theorem entries_slot {a : AuditLog} {i : Nat} (h : i < a.count) :
    a.ring.entries[i]? = some (a.slot
      ((a.head + automationAuditCapacity - a.count) % automationAuditCapacity + i)) := by
  have hle := a.count_le
  have hhead := a.head_lt
  have hmod (n : Nat) : a.slot (n % automationAuditCapacity) = a.slot n := by
    unfold slot
    congr 2
    exact Nat.mod_mod _ _
  have hindex : (a.head + automationAuditCapacity - a.count + i) % automationAuditCapacity <
      a.count := by
    by_cases hroom : a.count < automationAuditCapacity
    · have hwrap : a.count + automationAuditCapacity - a.count + i =
          i + automationAuditCapacity := by omega
      rw [a.head_eq hroom, hwrap, Nat.add_mod_right, Nat.mod_eq_of_lt (by omega)]
      exact h
    · have hlt := Nat.mod_lt (a.head + automationAuditCapacity - a.count + i)
        (show 0 < automationAuditCapacity by decide)
      omega
  rw [Ring.entries_getElem? a.ring (by rwa [ring_length]), ring_length]
  show a.ring.slots[(a.head + automationAuditCapacity - a.count + i) % automationAuditCapacity]? = _
  rw [ring_slot hindex, hmod, ← hmod (_ % _ + i), Nat.mod_add_mod, hmod]

theorem get_eq (a : AuditLog) (maxEvents : Int) :
    a.get maxEvents = a.ring.entries.take maxEvents.toNat := by
  unfold get
  split
  · rename_i hnone
    rw [Int.toNat_of_nonpos hnone, List.take_zero]
  · refine List.ext_getElem? fun i => ?_
    rw [List.getElem?_map, List.getElem?_take]
    by_cases hi : i < min a.count maxEvents.toNat
    · rw [List.getElem?_range hi, if_pos (by omega), entries_slot (by omega), Option.map_some]
    · rw [List.getElem?_eq_none (by rw [List.length_range]; omega), Option.map_none]
      split
      · rw [List.getElem?_eq_none (by rw [Ring.entries_length, ring_length]; omega)]
      · rfl

end AuditLog

/-! ## Decisions -/

/-- What the task decided on a rule that came to its action. -/
inductive Outcome
  | blocked | completed | failed
  deriving DecidableEq

structure Decision where
  rule : AutomationRule
  state : TcmContext
  outcome : Outcome

def Decision.event (d : Decision) : AuditEvent :=
  auditEvent d.rule d.state (d.outcome = .completed)
    (match d.outcome with
      | .blocked => "interlock blocked action"
      | .completed => "action completed"
      | .failed => "action failed")

def AutomationEngine.decision (s : AutomationEngine) : EngineStep → Option Decision
  | .interlock pool =>
    match s.task with
    | .due _ _ _ rule state =>
      if interlockAllows rule pool then none else some ⟨rule, state, .blocked⟩
    | _ => none
  | .finish env =>
    match s.task with
    | .acting _ _ _ rule state =>
      some ⟨rule, state, if (executeRule env rule state).1 = .ok then .completed else .failed⟩
    | _ => none
  | _ => none

/-- The rule and the state with which a step comes to the interlock. -/
def AutomationEngine.arrival (s : AutomationEngine) : EngineStep →
    Option (AutomationRule × TcmContext)
  | .check pool =>
    (s.evaluation pool).bind fun e => if s.acts e then some (e.rule, e.state) else none
  | _ => none

def AutomationTask.undecided : AutomationTask → List (AutomationRule × TcmContext)
  | .due _ _ _ rule state => [(rule, state)]
  | .acting _ _ _ rule state => [(rule, state)]
  | _ => []

/-- The engine with its audit, the rules that came to their action, and the decisions. -/
structure AuditedEngine where
  engine : AutomationEngine
  audit : AuditLog
  evaluations : Nat
  arrivals : List (AutomationRule × TcmContext)
  decisions : List Decision

namespace AuditedEngine

def boot (saved : Option PersistedRules) (timer : Nat) : AuditedEngine :=
  ⟨.boot saved timer, .boot, 0, [], []⟩

def evaluates (s : AuditedEngine) : EngineStep → Bool
  | .check pool => (s.engine.evaluation pool).isSome
  | _ => false

def step (s : AuditedEngine) (a : EngineStep) : AuditedEngine where
  engine := s.engine.step a
  audit :=
    match s.engine.decision a with
    | none => s.audit
    | some d => s.audit.add d.event
  evaluations := if s.evaluates a then s.evaluations + 1 else s.evaluations
  arrivals := s.arrivals ++ (s.engine.arrival a).toList
  decisions := s.decisions ++ (s.engine.decision a).toList

/-- What the counters and the audit say of the decisions. -/
structure Accounted (s : AuditedEngine) : Prop where
  evaluations : s.engine.stats.evaluations = UInt32.ofNat s.evaluations
  triggers : s.engine.stats.triggers =
    UInt32.ofNat (s.decisions.countP fun d => decide (d.outcome = .completed))
  failures : s.engine.stats.failures =
    UInt32.ofNat (s.decisions.countP fun d => decide (d.outcome ≠ .completed))
  decided : s.arrivals = s.decisions.map (fun d => (d.rule, d.state)) ++ s.engine.task.undecided
  audited : s.audit.ring.entries = (s.decisions.map Decision.event).rtake automationAuditCapacity

section Accounts

variable {s : AuditedEngine}

theorem Accounted.quiet (h : Accounted s) {a : EngineStep} (hevaluates : s.evaluates a = false)
    (harrival : s.engine.arrival a = none) (hdecision : s.engine.decision a = none)
    (hstats : (s.engine.step a).stats = s.engine.stats)
    (htask : (s.engine.step a).task.undecided = s.engine.task.undecided) :
    Accounted (s.step a) := by
  have hstep : s.step a = { s with engine := s.engine.step a } := by
    simp only [step, hevaluates, harrival, hdecision, Option.toList_none, List.append_nil,
      Bool.false_eq_true, if_false]
  rw [hstep]
  refine ⟨?_, ?_, ?_, ?_, h.audited⟩
  · exact (congrArg AutomationStats.evaluations hstats).trans h.evaluations
  · exact (congrArg AutomationStats.triggers hstats).trans h.triggers
  · exact (congrArg AutomationStats.failures hstats).trans h.failures
  · exact h.decided.trans (congrArg _ htask.symm)

theorem saveLocked_keeps (e : AutomationEngine) (env : SaveEnv) :
    (e.saveLocked env).2.stats = e.stats ∧ (e.saveLocked env).2.task = e.task := by
  unfold AutomationEngine.saveLocked
  split
  · exact ⟨rfl, rfl⟩
  · split <;> exact ⟨rfl, rfl⟩

/-- Edits touch neither the counters nor the task. -/
theorem upsert_keeps (e : AutomationEngine) (rule : AutomationRule) (env : SaveEnv) :
    (e.automationUpsertRule rule env).2.stats = e.stats ∧
      (e.automationUpsertRule rule env).2.task = e.task := by
  unfold AutomationEngine.automationUpsertRule
  split
  · exact ⟨rfl, rfl⟩
  · exact saveLocked_keeps _ env

theorem delete_keeps (e : AutomationEngine) (id : SeqId) (env : SaveEnv) :
    (e.automationDeleteRule id env).2.stats = e.stats ∧
      (e.automationDeleteRule id env).2.task = e.task := by
  unfold AutomationEngine.automationDeleteRule
  split
  · exact ⟨rfl, rfl⟩
  · exact saveLocked_keeps _ env

theorem cycle_keeps (e : AutomationEngine) :
    e.cycle.stats = e.stats ∧ e.cycle.task.undecided = e.task.undecided := by
  unfold AutomationEngine.cycle
  split
  · rename_i htask
    rw [htask]
    exact ⟨rfl, rfl⟩
  · exact ⟨rfl, rfl⟩

theorem Accounted.check (h : Accounted s) (pool : StatePool) : Accounted (s.step (.check pool)) := by
  cases heval : s.engine.evaluation pool with
  | none =>
    have hquiet : (s.engine.check pool).stats = s.engine.stats ∧
        (s.engine.check pool).task.undecided = s.engine.task.undecided := by
      unfold AutomationEngine.evaluation at heval
      unfold AutomationEngine.check
      split
      · rename_i snapshot now i htask
        simp only [htask] at heval
        split
        · exact ⟨rfl, by rw [htask]; rfl⟩
        · rename_i rule hrule
          simp only [hrule, Option.bind_some, Option.map_eq_none_iff] at heval
          simp only [heval]
          exact ⟨trivial, by rw [htask]; rfl⟩
      · exact ⟨rfl, rfl⟩
    refine h.quiet ?_ ?_ rfl hquiet.1 hquiet.2
    · rw [evaluates, heval]
      rfl
    · rw [AutomationEngine.arrival, heval]
      rfl
  | some e =>
    obtain ⟨htask, -, hcheck⟩ := evaluation_eq_some heval
    have hengine : s.engine.step (.check pool) = e.after s.engine := hcheck
    have hevaluates : s.evaluates (.check pool) = true := by
      rw [evaluates, heval]
      rfl
    have harrival : s.engine.arrival (.check pool) =
        if s.engine.acts e then some (e.rule, e.state) else none := by
      rw [AutomationEngine.arrival, heval]
      rfl
    have hundecided : s.engine.task.undecided = [] := by rw [htask]; rfl
    have hdecided := h.decided
    rw [hundecided, List.append_nil] at hdecided
    refine ⟨?_, ?_, ?_, ?_, ?_⟩
    · show (s.engine.step (.check pool)).stats.evaluations =
        UInt32.ofNat (if s.evaluates (.check pool) then s.evaluations + 1 else s.evaluations)
      rw [hengine, hevaluates, if_pos rfl, UInt32.ofNat_add, ← h.evaluations]
      rfl
    · show (s.engine.step (.check pool)).stats.triggers = UInt32.ofNat ((s.decisions ++ []).countP _)
      rw [hengine, List.append_nil]
      exact h.triggers
    · show (s.engine.step (.check pool)).stats.failures = UInt32.ofNat ((s.decisions ++ []).countP _)
      rw [hengine, List.append_nil]
      exact h.failures
    · show s.arrivals ++ (s.engine.arrival (.check pool)).toList =
        (s.decisions ++ []).map _ ++ (s.engine.step (.check pool)).task.undecided
      rw [hengine, harrival, after_task, List.append_nil, hdecided]
      split <;> rfl
    · show s.audit.ring.entries = ((s.decisions ++ []).map Decision.event).rtake _
      rw [List.append_nil]
      exact h.audited

/-- A decision is counted and audited, and nothing is left undecided. -/
theorem Accounted.decide (h : Accounted s) {a : EngineStep} {d : Decision}
    (hdecision : s.engine.decision a = some d) (hevaluates : s.evaluates a = false)
    (harrival : s.engine.arrival a = none)
    (hundecided : s.engine.task.undecided = [(d.rule, d.state)])
    (hafter : (s.engine.step a).task.undecided = [])
    (hstats : (s.engine.step a).stats =
      if d.outcome = .completed then { s.engine.stats with triggers := s.engine.stats.triggers + 1 }
      else { s.engine.stats with failures := s.engine.stats.failures + 1 }) :
    Accounted (s.step a) := by
  have hstep : s.step a =
      { s with
        engine := s.engine.step a
        audit := s.audit.add d.event
        decisions := s.decisions ++ [d] } := by
    simp only [step, hevaluates, harrival, hdecision, Option.toList_none, Option.toList_some,
      List.append_nil, Bool.false_eq_true, if_false]
  have hcount (p : Decision → Bool) : (s.decisions ++ [d]).countP p =
      s.decisions.countP p + if p d then 1 else 0 := by
    rw [List.countP_append, List.countP_singleton]
  rw [hstep]
  refine ⟨?_, ?_, ?_, ?_, ?_⟩
  · show (s.engine.step a).stats.evaluations = _
    rw [hstats]
    split <;> exact h.evaluations
  · show (s.engine.step a).stats.triggers = UInt32.ofNat ((s.decisions ++ [d]).countP _)
    rw [hstats, hcount, UInt32.ofNat_add, ← h.triggers]
    by_cases hdone : d.outcome = .completed
    · simp [hdone]
    · simp [hdone]
  · show (s.engine.step a).stats.failures = UInt32.ofNat ((s.decisions ++ [d]).countP _)
    rw [hstats, hcount, UInt32.ofNat_add, ← h.failures]
    by_cases hdone : d.outcome = .completed
    · simp [hdone]
    · simp [hdone]
  · show s.arrivals = (s.decisions ++ [d]).map _ ++ (s.engine.step a).task.undecided
    rw [h.decided, hundecided, hafter, List.append_nil, List.map_append]
    rfl
  · show (s.audit.add d.event).ring.entries = ((s.decisions ++ [d]).map Decision.event).rtake _
    rw [AuditLog.ring_add, List.map_append]
    exact Ring.entries_push_last h.audited d.event

theorem Accounted.interlock (h : Accounted s) (pool : StatePool) :
    Accounted (s.step (.interlock pool)) := by
  cases htask : s.engine.task with
  | due snapshot now i rule state =>
    have hstep : s.engine.step (.interlock pool) =
        if interlockAllows rule pool then
          { s.engine with task := .acting snapshot now i rule state }
        else s.engine.countFailure.triggered snapshot now i := by
      show s.engine.interlock pool = _
      rw [AutomationEngine.interlock, htask]
    cases hallows : interlockAllows rule pool with
    | true =>
      rw [hallows, if_pos rfl] at hstep
      refine h.quiet rfl rfl ?_ ?_ ?_
      · rw [AutomationEngine.decision, htask]
        exact if_pos hallows
      · rw [hstep]
      · rw [hstep, htask]
        rfl
    | false =>
      rw [hallows, if_neg Bool.false_ne_true] at hstep
      refine h.decide (d := ⟨rule, state, .blocked⟩) ?_ rfl rfl ?_ ?_ ?_
      · rw [AutomationEngine.decision, htask]
        exact if_neg (by rw [hallows]; exact Bool.false_ne_true)
      · rw [htask]
        rfl
      · rw [hstep]
        rfl
      · rw [hstep]
        rfl
  | _ =>
    have hstep : s.engine.step (.interlock pool) = s.engine := by
      show s.engine.interlock pool = _
      rw [AutomationEngine.interlock, htask]
    refine h.quiet rfl rfl ?_ ?_ ?_
    · rw [AutomationEngine.decision, htask]
    · rw [hstep]
    · rw [hstep]

theorem Accounted.finish (h : Accounted s) (env : ExecEnv) : Accounted (s.step (.finish env)) := by
  cases htask : s.engine.task with
  | acting snapshot now i rule state =>
    have hstep : s.engine.step (.finish env) =
        (if (executeRule env rule state).1 = .ok then s.engine.countTrigger
          else s.engine.countFailure).triggered snapshot now i := by
      show s.engine.finish env = _
      rw [AutomationEngine.finish, htask]
    refine h.decide (d := ⟨rule, state,
      if (executeRule env rule state).1 = .ok then .completed else .failed⟩) ?_ rfl rfl ?_ ?_ ?_
    · rw [AutomationEngine.decision, htask]
    · rw [htask]
      rfl
    · rw [hstep]
      rfl
    · rw [hstep]
      by_cases hok : (executeRule env rule state).1 = .ok
      · simp only [if_pos hok, if_true]
        rfl
      · simp only [if_neg hok, reduceCtorEq, if_false]
        rfl
  | _ =>
    have hstep : s.engine.step (.finish env) = s.engine := by
      show s.engine.finish env = _
      rw [AutomationEngine.finish, htask]
    refine h.quiet rfl rfl ?_ ?_ ?_
    · rw [AutomationEngine.decision, htask]
    · rw [hstep]
    · rw [hstep]

theorem Accounted.step (h : Accounted s) (a : EngineStep) : Accounted (s.step a) := by
  cases a with
  | upsert rule env =>
    obtain ⟨hstats, htask⟩ := upsert_keeps s.engine rule env
    exact h.quiet rfl rfl rfl hstats (congrArg _ htask)
  | delete id env =>
    obtain ⟨hstats, htask⟩ := delete_keeps s.engine id env
    exact h.quiet rfl rfl rfl hstats (congrArg _ htask)
  | wait elapsed => exact h.quiet rfl rfl rfl rfl rfl
  | cycle =>
    obtain ⟨hstats, htask⟩ := cycle_keeps s.engine
    exact h.quiet rfl rfl rfl hstats htask
  | check pool => exact h.check pool
  | interlock pool => exact h.interlock pool
  | finish env => exact h.finish env

theorem accounted_boot (saved : Option PersistedRules) (timer : Nat) :
    Accounted (boot saved timer) := ⟨rfl, rfl, rfl, rfl, rfl⟩

end Accounts

/-- **Every decision is accounted for.** In every run of the task with edits between its steps,
the rules that came to their action are decided one by one, in order, but for the one that the
task is at; `automation_get_stats` has the number of evaluations, of completed actions and of the
others, and `automation_get_audit` the oldest of the last 64 decisions, in order. -/
theorem decisions_accounted (saved : Option PersistedRules) (timer : Nat)
    (steps : List EngineStep) :
    Accounted (run step (boot saved timer) steps) ∧
      ∀ maxEvents : Int, (run step (boot saved timer) steps).audit.get maxEvents =
        (((run step (boot saved timer) steps).decisions.map Decision.event).rtake
          automationAuditCapacity).take maxEvents.toNat := by
  have hkeep : ∀ s a, Accounted s → True → Accounted (step s a) := fun s a h _ => h.step a
  have hend : Accounted (run step (boot saved timer) steps) :=
    inv_run hkeep (accounted_boot saved timer) (allSteps_of_forall (fun _ _ => trivial) _)
  refine ⟨hend, fun maxEvents => ?_⟩
  rw [AuditLog.get_eq, hend.audited]

end AuditedEngine

end McpGateway.Automation
