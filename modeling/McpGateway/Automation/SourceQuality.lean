import McpGateway.Automation.Engine
import McpGateway.Lib.Run
import McpGateway.Scheduler.Pipeline

/-!
# Rules and invalid samples

The automation task next to the two writers of the state pool: a failed poll
stores the value 0 with invalid quality, an answered one goes through
`context_build_task`. `automation_task` looks at the quality of an interlock
point only, so a rule whose condition is met by 0 acts on a failed poll.
-/

namespace McpGateway.Automation

open McpGateway.Lib McpGateway.Tcm McpGateway.Amm McpGateway.Modbus McpGateway.Scheduler

/-- Rules as `automation_upsert_rule` accepts them. -/
structure RuleSet where
  rules : List AutomationRule
  fits : rules.length ≤ automationMaxRules
  sourced : ∀ r ∈ rules, r.sourceDevice.str ≠ [] ∧ r.sourcePoint.str ≠ []

/-- The pool and the automation task. -/
structure Monitor where
  pool : StatePool
  engine : AutomationEngine

inductive MonitorStep
  | failed (cfg : AmmMappingEntry) (nowMs : Int) (net : NetworkState)
  | answered (env : BuildEnv) (net : NetworkState) (amm : AmmTable) (cfg : AmmMappingEntry)
    (regs : List UInt16)
  | wait (elapsed : Nat)
  | cycle
  | check
  | interlock
  | finish (env : ExecEnv)

/-- `tcm_state_pool_init`, with or without external memory. -/
def poolCapacity (psram : Bool) : Nat :=
  if psram then ammMaxMappingEntries else ammFallbackMappingEntries

namespace Monitor

/-- An empty pool, and the task with the stored rules. -/
def start (psram : Bool) (R : RuleSet) (nextId : SeqId) (timer : Nat) : Monitor where
  pool := .empty (poolCapacity psram)
  engine := .boot (some ⟨nextId, R.rules⟩) timer

/-- `context_build_task` on an answered poll. -/
def build (pool : StatePool) (env : BuildEnv) (net : NetworkState) (amm : AmmTable)
    (r : ModbusReadResult) : StatePool :=
  match buildContext env net amm r with
  | none => pool
  | some (_, ctx) => tcmStatePoolUpdate ctx pool

def step (s : Monitor) : MonitorStep → Monitor
  | .failed cfg nowMs net =>
    { s with pool := tcmStatePoolUpdate (failedState cfg nowMs net) s.pool }
  | .answered env net amm cfg regs =>
    { s with pool := build s.pool env net amm (pollResult cfg (some regs)) }
  | .wait elapsed => { s with engine := s.engine.step (.wait elapsed) }
  | .cycle => { s with engine := s.engine.cycle }
  | .check => { s with engine := s.engine.check s.pool }
  | .interlock => { s with engine := s.engine.interlock s.pool }
  | .finish env => { s with engine := s.engine.finish env }

end Monitor

/-- An action starts on a sample that is not invalid. -/
def ActsOnValid (s : Monitor) : MonitorStep → Prop
  | .interlock => ∀ d ∈ s.engine.task.dueSample, interlockAllows d.1 s.pool = true →
      d.2.qualityState ≠ .invalid
  | _ => True

/-- The condition of a rule is not met by 0, not even with its hysteresis. -/
def IgnoresZero (rule : AutomationRule) : Prop := conditionMatches rule (.fin 0) true = false

/-! ## The condition of a rule -/

section Condition

variable {rule : AutomationRule}

theorem hysteresis_nonneg (x : CFloat) :
    (∃ q, x.fmax (.fin 0) = .fin q ∧ 0 ≤ q) ∨ x.fmax (.fin 0) = .inf false := by
  cases x with
  | nan => exact .inl ⟨0, rfl, le_refl _⟩
  | inf neg =>
    cases neg with
    | true => exact .inl ⟨0, rfl, le_refl _⟩
    | false => exact .inr rfl
  | fin q =>
    refine .inl ?_
    by_cases hq : q < 0
    · exact ⟨0, by simp [CFloat.fmax, CFloat.lt, hq], le_refl _⟩
    · exact ⟨q, by simp [CFloat.fmax, CFloat.lt, hq], not_lt.1 hq⟩

section Widen

variable {t h : CFloat} {r : ℚ}

theorem lt_sub_of_lt (hh : (∃ q, h = .fin q ∧ 0 ≤ q) ∨ h = .inf false)
    (hlt : t.lt (.fin r) = true) : (t.sub h).lt (.fin r) = true := by
  rcases hh with ⟨q, rfl, hq⟩ | rfl <;> rcases t with p | (_ | _) | _ <;>
    simp_all [CFloat.lt, CFloat.sub, CFloat.add, CFloat.neg]
  linarith

theorem le_sub_of_le (hh : (∃ q, h = .fin q ∧ 0 ≤ q) ∨ h = .inf false)
    (hle : t.le (.fin r) = true) : (t.sub h).le (.fin r) = true := by
  rcases hh with ⟨q, rfl, hq⟩ | rfl <;> rcases t with p | (_ | _) | _ <;>
    simp_all [CFloat.le, CFloat.lt, CFloat.sub, CFloat.add, CFloat.neg]
  linarith

theorem lt_add_of_lt (hh : (∃ q, h = .fin q ∧ 0 ≤ q) ∨ h = .inf false)
    (hlt : (CFloat.fin r).lt t = true) : (CFloat.fin r).lt (t.add h) = true := by
  rcases hh with ⟨q, rfl, hq⟩ | rfl <;> rcases t with p | (_ | _) | _ <;>
    simp_all [CFloat.lt, CFloat.add]
  linarith

theorem le_add_of_le (hh : (∃ q, h = .fin q ∧ 0 ≤ q) ∨ h = .inf false)
    (hle : (CFloat.fin r).le t = true) : (CFloat.fin r).le (t.add h) = true := by
  rcases hh with ⟨q, rfl, hq⟩ | rfl <;> rcases t with p | (_ | _) | _ <;>
    simp_all [CFloat.le, CFloat.lt, CFloat.add]
  linarith

theorem lt_inf_of_sub (hh : (∃ q, h = .fin q ∧ 0 ≤ q) ∨ h = .inf false)
    (hlt : (t.sub h).lt (.fin r) = true) : t.lt (.inf false) = true := by
  rcases hh with ⟨q, rfl, hq⟩ | rfl <;> rcases t with p | (_ | _) | _ <;>
    simp_all [CFloat.lt, CFloat.sub, CFloat.add, CFloat.neg]

theorem le_inf_of_sub (hh : (∃ q, h = .fin q ∧ 0 ≤ q) ∨ h = .inf false)
    (hle : (t.sub h).le (.fin r) = true) : t.le (.inf false) = true := by
  rcases hh with ⟨q, rfl, hq⟩ | rfl <;> rcases t with p | (_ | _) | _ <;>
    simp_all [CFloat.le, CFloat.lt, CFloat.sub, CFloat.add, CFloat.neg]

theorem inf_lt_of_add (hh : (∃ q, h = .fin q ∧ 0 ≤ q) ∨ h = .inf false)
    (hlt : (CFloat.fin r).lt (t.add h) = true) : (CFloat.inf true).lt t = true := by
  rcases hh with ⟨q, rfl, hq⟩ | rfl <;> rcases t with p | (_ | _) | _ <;>
    simp_all [CFloat.lt, CFloat.add]

theorem inf_le_of_add (hh : (∃ q, h = .fin q ∧ 0 ≤ q) ∨ h = .inf false)
    (hle : (CFloat.fin r).le (t.add h) = true) : (CFloat.inf true).le t = true := by
  rcases hh with ⟨q, rfl, hq⟩ | rfl <;> rcases t with p | (_ | _) | _ <;>
    simp_all [CFloat.le, CFloat.lt, CFloat.add]

end Widen

theorem conditionMatches_active {r : ℚ} (h : conditionMatches rule (.fin r) false = true) :
    conditionMatches rule (.fin r) true = true := by
  have hnonneg := hysteresis_nonneg rule.hysteresis
  unfold conditionMatches at h ⊢
  cases hop : rule.conditionOperator with
  | gt =>
    rw [hop] at h
    exact lt_sub_of_lt hnonneg h
  | gte =>
    rw [hop] at h
    exact le_sub_of_le hnonneg h
  | lt =>
    rw [hop] at h
    exact lt_add_of_lt hnonneg h
  | lte =>
    rw [hop] at h
    exact le_add_of_le hnonneg h
  | eq =>
    rw [hop] at h
    exact h
  | neq =>
    rw [hop] at h
    exact h

theorem IgnoresZero.inactive (h : IgnoresZero rule) (active : Bool) :
    conditionMatches rule (.fin 0) active = false := by
  cases active with
  | true => exact h
  | false =>
    by_contra hne
    rw [IgnoresZero, conditionMatches_active (Bool.eq_true_of_not_eq_false hne)] at h
    cases h

/-- A value that meets the condition of a rule which 0 can meet. -/
def activating (rule : AutomationRule) : CFloat :=
  match rule.conditionOperator with
  | .gt | .gte => .inf false
  | .lt | .lte => .inf true
  | .eq | .neq => .fin 0

theorem conditionMatches_activating (h : conditionMatches rule (.fin 0) true = true) :
    conditionMatches rule (activating rule) false = true := by
  have hnonneg := hysteresis_nonneg rule.hysteresis
  unfold conditionMatches at h ⊢
  unfold activating
  cases hop : rule.conditionOperator with
  | gt =>
    rw [hop] at h
    exact lt_inf_of_sub hnonneg h
  | gte =>
    rw [hop] at h
    exact le_inf_of_sub hnonneg h
  | lt =>
    rw [hop] at h
    exact inf_lt_of_add hnonneg h
  | lte =>
    rw [hop] at h
    exact inf_le_of_add hnonneg h
  | eq =>
    rw [hop] at h
    exact h
  | neq =>
    rw [hop] at h
    exact h

theorem toFloat_activating (rule : AutomationRule) :
    toFloat (activating rule) = activating rule := by
  unfold activating
  cases rule.conditionOperator with
  | eq => exact toFloat_zero
  | neq => exact toFloat_zero
  | _ => rfl

end Condition

/-! ## Rules that ignore 0 -/

/-- Every invalid sample of the pool has the value 0. -/
def ZeroIfInvalid (pool : StatePool) : Prop :=
  ∀ ctx ∈ pool.states, ctx.qualityState = .invalid → ctx.value = .fin 0

theorem mem_update {pool : StatePool} {ctx x : TcmContext}
    (h : x ∈ (tcmStatePoolUpdate ctx pool).states) : x = ctx ∨ x ∈ pool.states := by
  unfold tcmStatePoolUpdate updateStates at h
  simp only at h
  split at h
  · exact (List.mem_or_eq_of_mem_set h).symm
  · split at h
    · exact (List.mem_append.1 h).symm.imp_left List.mem_singleton.1
    · exact (List.mem_or_eq_of_mem_set h).symm

theorem ZeroIfInvalid.update {pool : StatePool} {ctx : TcmContext} (h : ZeroIfInvalid pool)
    (hctx : ctx.qualityState = .invalid → ctx.value = .fin 0) :
    ZeroIfInvalid (tcmStatePoolUpdate ctx pool) := by
  intro x hx
  rcases mem_update hx with rfl | hold
  · exact hctx
  · exact h x hold

theorem buildContext_quality {env : BuildEnv} {net : NetworkState} {amm : AmmTable}
    {r : ModbusReadResult} {err : EspErr} {ctx : TcmContext}
    (h : buildContext env net amm r = some (err, ctx)) : ctx.qualityState = r.quality := by
  unfold buildContext at h
  split at h
  · cases h
  · rename_i base hbase
    obtain ⟨-, -, hquality, -⟩ := rawContext_of_built hbase
    simp only at h
    split at h
    · have hctx := congrArg Prod.snd (Option.some.inj h)
      have hsame : (ammEnrichContext amm (rawContext r base)).2.qualityState =
          (rawContext r base).qualityState := by
        unfold ammEnrichContext
        split <;> rfl
      rw [← hquality, ← hsame]
      exact congrArg TcmContext.qualityState hctx.symm
    · cases h

/-- What holds while a set of rules that ignore 0 is evaluated. -/
structure Unharmed (R : RuleSet) (s : Monitor) : Prop where
  pool : ZeroIfInvalid s.pool
  rules : s.engine.rules = R.rules
  snapshot : ∀ r ∈ s.engine.task.snapshot, r ∈ R.rules
  due : ∀ d ∈ s.engine.task.dueSample, d.2.qualityState ≠ .invalid

section Unharmed

variable {R : RuleSet} {s : Monitor}

/-- The rules that ignore 0 are not due on an invalid sample. -/
theorem Unharmed.check (h : Unharmed R s)
    (hR : ∀ r ∈ R.rules, r.enabled = true → IgnoresZero r) : Unharmed R (s.step .check) := by
  cases he : s.engine.evaluation s.pool with
  | none =>
    rcases evaluation_eq_none he with hsame | ⟨snapshot, now, i, htask, ⟨-, hidle⟩ | hskip⟩
    · have hstep : s.step .check = s := by
        show { s with engine := s.engine.check s.pool } = s
        rw [hsame]
      rw [hstep]
      exact h
    · have hstep : s.step .check = { s with engine := { s.engine with task := .idle } } := by
        show { s with engine := s.engine.check s.pool } = _
        rw [hidle]
      rw [hstep]
      exact ⟨h.pool, h.rules, fun r hr => absurd hr List.not_mem_nil, fun d hd => by cases hd⟩
    · have hstep : s.step .check =
          { s with engine := { s.engine with task := .scanning snapshot now (i + 1) } } := by
        show { s with engine := s.engine.check s.pool } = _
        rw [hskip]
      have hsnapshot := h.snapshot
      rw [htask] at hsnapshot
      rw [hstep]
      exact ⟨h.pool, h.rules, hsnapshot, fun d hd => by cases hd⟩
  | some e =>
    obtain ⟨htask, -, hcheck⟩ := evaluation_eq_some he
    obtain ⟨hmem, henabled, hstate⟩ := evaluation_sample he
    have hstep : s.step .check = { s with engine := e.after s.engine } := by
      show { s with engine := s.engine.check s.pool } = _
      rw [hcheck]
    have hsnapshot := h.snapshot
    rw [htask] at hsnapshot
    rw [hstep]
    refine ⟨h.pool, h.rules, ?_, ?_⟩
    · show ∀ r ∈ (e.after s.engine).task.snapshot, _
      rw [after_snapshot]
      exact hsnapshot
    · show ∀ d ∈ (e.after s.engine).task.dueSample, _
      rw [after_task]
      intro d hd
      split at hd
      · rename_i hacts
        obtain rfl := Option.some.inj hd
        intro hinvalid
        have hzero : IgnoresZero e.rule := hR e.rule (h.snapshot _ hmem) henabled
        have hmatched := (Bool.and_eq_true_iff.1 hacts).1
        rw [AutomationEngine.matched, h.pool e.state hstate hinvalid, toFloat_zero,
          hzero.inactive] at hmatched
        cases hmatched
      · cases hd

theorem Unharmed.step (h : Unharmed R s)
    (hR : ∀ r ∈ R.rules, r.enabled = true → IgnoresZero r) (a : MonitorStep) :
    Unharmed R (s.step a) := by
  cases a with
  | failed cfg nowMs net =>
    exact ⟨h.pool.update fun _ => rfl, h.rules, h.snapshot, h.due⟩
  | answered env net amm cfg regs =>
    refine ⟨?_, h.rules, h.snapshot, h.due⟩
    show ZeroIfInvalid (Monitor.build s.pool env net amm (pollResult cfg (some regs)))
    unfold Monitor.build
    cases hbuild : buildContext env net amm (pollResult cfg (some regs)) with
    | none => exact h.pool
    | some built =>
      refine h.pool.update fun hinvalid => ?_
      have hquality : built.2.qualityState = .good := buildContext_quality (hbuild : _ = some (_, _))
      rw [hinvalid] at hquality
      cases hquality
  | wait elapsed => exact ⟨h.pool, h.rules, h.snapshot, h.due⟩
  | cycle =>
    show Unharmed R { s with engine := s.engine.cycle }
    unfold AutomationEngine.cycle
    split
    · exact ⟨h.pool, h.rules, fun r hr => h.rules ▸ hr, fun d hd => by cases hd⟩
    · exact h
  | check => exact h.check hR
  | interlock =>
    show Unharmed R { s with engine := s.engine.interlock s.pool }
    unfold AutomationEngine.interlock
    split
    · rename_i htask
      have hsnapshot := h.snapshot
      rw [htask] at hsnapshot
      split
      · exact ⟨h.pool, h.rules, hsnapshot, fun d hd => by cases hd⟩
      · exact ⟨h.pool, h.rules, hsnapshot, fun d hd => by cases hd⟩
    · exact h
  | finish env =>
    show Unharmed R { s with engine := s.engine.finish env }
    unfold AutomationEngine.finish
    split
    · rename_i htask
      have hsnapshot := h.snapshot
      rw [htask] at hsnapshot
      split
      · exact ⟨h.pool, h.rules, hsnapshot, fun d hd => by cases hd⟩
      · exact ⟨h.pool, h.rules, hsnapshot, fun d hd => by cases hd⟩
    · exact h

theorem Unharmed.acts (h : Unharmed R s) (a : MonitorStep) : ActsOnValid s a := by
  cases a with
  | interlock => exact fun d hd _ => h.due d hd
  | _ => trivial

theorem unharmed_start (psram : Bool) (R : RuleSet) (nextId : SeqId) (timer : Nat) :
    Unharmed R (.start psram R nextId timer) := by
  refine ⟨fun ctx hctx => absurd hctx List.not_mem_nil, ?_, fun r hr => ?_, fun d hd => ?_⟩
  · exact if_pos R.fits
  · cases hr
  · cases hd

end Unharmed

/-! ## A rule that 0 can meet -/

/-- A float point of the given names, and a table that holds it alone. -/
def floatPoint (device point : CBuf 32) : AmmMappingEntry :=
  { AmmMappingEntry.zero with
    slaveId := 1
    functionCode := 3
    dataType := .float32
    scaleFactor := .fin 1
    deviceId := device
    pointId := point
    active := true }

def tableOf (e : AmmMappingEntry) : AmmTable :=
  { AmmTable.empty ammFallbackMappingEntries with table := [e] }

/-- A poll of the point that is answered with `regs`. -/
def reads (device point : CBuf 32) (regs : List UInt16) : MonitorStep :=
  .answered ⟨[], 0, 0, 0⟩ .online (tableOf (floatPoint device point)) (floatPoint device point) regs

def fails (device point : CBuf 32) : MonitorStep := .failed (floatPoint device point) 0 .online

def wordsOf : CFloat → List UInt16
  | .inf false => [0x7F80, 0]
  | .inf true => [0xFF80, 0]
  | .fin q => if q = 0 then [0, 0] else [0x3F80, 0]
  | .nan => [0x7FC0, 0]

/-- What an answered poll of a point stores. -/
structure Sample (device point : CStr) (value : CFloat) (ctx : TcmContext) : Prop where
  names : ctx.names = (device, point)
  quality : ctx.qualityState = .good
  value : ctx.value = value

theorem decode_words {v : CFloat}
    (hv : v = .inf false ∨ v = .inf true ∨ v = .fin 0 ∨ v = .fin 1) :
    modbusConvertToNumber (wordsOf v) .float32 .abcd 0 = v := by
  rcases hv with rfl | rfl | rfl | rfl <;> decide +kernel

theorem reads_step {device point : CBuf 32} (hnames : device.str ≠ [] ∧ point.str ≠ [])
    {v : CFloat} (hv : v = .inf false ∨ v = .inf true ∨ v = .fin 0 ∨ v = .fin 1) (s : Monitor) :
    ∃ ctx, Sample device.str point.str v ctx ∧
      s.step (reads device point (wordsOf v)) =
        { s with pool := tcmStatePoolUpdate ctx s.pool } := by
  have hfind : ammFindMappingForObject
      (pollResult (floatPoint device point) (some (wordsOf v))).key
        (tableOf (floatPoint device point)) = some (floatPoint device point) := by
    rw [pollResult_key]
    simp [ammFindMappingForObject, AmmTable.entries, tableOf, floatPoint]
  have hslave : (1 : UInt8) ≠ 0 ∧ (1 : UInt8) ≤ 247 := by decide
  have hfunction : (3 : UInt8) ∈ ([1, 2, 3, 4] : List UInt8) := by decide
  obtain ⟨base, hbuild, hvalue, hquality⟩ := buildContext_found ⟨[], 0, 0, 0⟩ .online
    hfind hslave hfunction hnames
  refine ⟨enrichWith (floatPoint device point) base, ⟨rfl, hquality, ?_⟩, ?_⟩
  · have hraw : (pollResult (floatPoint device point) (some (wordsOf v))).rawValue = v := by
      exact Eq.trans (by rfl) (decode_words hv)
    show (base.value.mul (.fin 1)).add (.fin 0) = v
    rw [hvalue, hraw]
    rcases hv with rfl | rfl | rfl | rfl <;> decide +kernel
  · show { s with pool := Monitor.build _ _ _ _ _ } = _
    rw [Monitor.build, hbuild]

/-! ### One rule of a cycle -/

/-- The task goes through one rule of its snapshot. -/
def visit (env : ExecEnv) : List MonitorStep := [.check, .interlock, .finish env]

/-- What going through rule `k` changes. -/
structure Visited (snapshot : List AutomationRule) (now : Int) (k : Nat) (s s' : Monitor) :
    Prop where
  pool : s'.pool = s.pool
  rules : s'.engine.rules = s.engine.rules
  timer : s'.engine.timer = s.engine.timer
  task : s'.engine.task = .scanning snapshot now (k + 1)
  others : ∀ j, j ≠ k → s'.engine.conditionActive j = s.engine.conditionActive j ∧
    s'.engine.conditionSince j = s.engine.conditionSince j ∧
      s'.engine.lastTrigger j = s.engine.lastTrigger j
  last : s'.engine.lastTrigger k = s.engine.lastTrigger k ∨ s'.engine.lastTrigger k = now
  evaluated : ∀ rule state, snapshot[k]? = some rule →
    AutomationEngine.sampleOf rule s.pool = some state →
      s.engine.matched rule k state = true → s'.engine.conditionActive k = true ∧
        s'.engine.conditionSince k = s.engine.sinceAt now k

section Visit

variable {snapshot : List AutomationRule} {now : Int} {k : Nat} {s : Monitor}

theorem run_visit_scanning (env : ExecEnv)
    (h : (s.engine.check s.pool).task = .scanning snapshot now k) :
    run Monitor.step s (visit env) = { s with engine := s.engine.check s.pool } := by
  have hinterlock : (s.engine.check s.pool).interlock s.pool = s.engine.check s.pool := by
    simp only [AutomationEngine.interlock, h]
  have hfinish : (s.engine.check s.pool).finish env = s.engine.check s.pool := by
    simp only [AutomationEngine.finish, h]
  show ({ s with engine := ((s.engine.check s.pool).interlock s.pool).finish env } : Monitor) = _
  rw [hinterlock, hfinish]

/-- A rule that is due leaves the time in its slot, whether it acts or is blocked. -/
theorem run_visit_due (env : ExecEnv) {rule : AutomationRule} {state : TcmContext}
    (h : (s.engine.check s.pool).task = .due snapshot now k rule state) :
    ∃ stats, run Monitor.step s (visit env) = { s with
      engine := { s.engine.check s.pool with stats := stats }.triggered snapshot now k } := by
  have hrun : run Monitor.step s (visit env) =
      { s with engine := ((s.engine.check s.pool).interlock s.pool).finish env } := rfl
  rw [hrun]
  by_cases hallows : interlockAllows rule s.pool = true
  · have hinterlock : (s.engine.check s.pool).interlock s.pool =
        { s.engine.check s.pool with task := .acting snapshot now k rule state } := by
      simp only [AutomationEngine.interlock, h, if_pos hallows]
    rw [hinterlock]
    unfold AutomationEngine.finish
    simp only
    split
    · exact ⟨_, rfl⟩
    · exact ⟨_, rfl⟩
  · have hinterlock : (s.engine.check s.pool).interlock s.pool =
        (s.engine.check s.pool).countFailure.triggered snapshot now k := by
      simp only [AutomationEngine.interlock, h, if_neg hallows]
    rw [hinterlock]
    exact ⟨_, rfl⟩

theorem after_slots {e : Evaluation} (engine : AutomationEngine) (j : Nat) (hj : j ≠ e.i) :
    (e.after engine).conditionActive j = engine.conditionActive j ∧
      (e.after engine).conditionSince j = engine.conditionSince j :=
  ⟨Function.update_of_ne hj _ _, Function.update_of_ne hj _ _⟩

theorem check_skip (htask : s.engine.task = .scanning snapshot now k) (hk : k < snapshot.length)
    (he : s.engine.evaluation s.pool = none) :
    s.engine.check s.pool = { s.engine with task := .scanning snapshot now (k + 1) } := by
  rcases evaluation_eq_none he with hsame | ⟨snapshot', now', i, htask', ⟨hend, -⟩ | hskip⟩
  · have hnone := congrArg AutomationEngine.task hsame
    rw [htask] at hnone
    unfold AutomationEngine.check at hnone
    rw [htask] at hnone
    simp only [List.getElem?_eq_getElem hk] at hnone
    split at hnone
    · injection hnone with _ _ hi
      omega
    · rename_i state hsample
      rw [evaluation_of_sample htask (List.getElem?_eq_getElem hk) hsample] at he
      cases he
  · obtain ⟨rfl, rfl, rfl⟩ := AutomationTask.scanning.inj (htask.symm.trans htask')
    rw [List.getElem?_eq_getElem hk] at hend
    cases hend
  · obtain ⟨rfl, rfl, rfl⟩ := AutomationTask.scanning.inj (htask.symm.trans htask')
    exact hskip

theorem visited (env : ExecEnv) (htask : s.engine.task = .scanning snapshot now k)
    (hk : k < snapshot.length) :
    Visited snapshot now k s (run Monitor.step s (visit env)) := by
  cases he : s.engine.evaluation s.pool with
  | none =>
    have hskip := check_skip htask hk he
    rw [run_visit_scanning env (by rw [hskip]), hskip]
    refine ⟨rfl, rfl, rfl, rfl, fun _ _ => ⟨rfl, rfl, rfl⟩, .inl rfl, ?_⟩
    intro rule state hrule hsample
    rw [evaluation_of_sample htask hrule hsample] at he
    cases he
  | some e =>
    obtain ⟨htask', hread, hcheck⟩ := evaluation_eq_some he
    obtain ⟨rfl, rfl, rfl⟩ := AutomationTask.scanning.inj (htask.symm.trans htask')
    have hevaluated : ∀ rule state, e.snapshot[e.i]? = some rule →
        AutomationEngine.sampleOf rule s.pool = some state →
          s.engine.matched rule e.i state = true →
            (e.after s.engine).conditionActive e.i = true ∧
              (e.after s.engine).conditionSince e.i = s.engine.sinceAt e.now e.i := by
      intro rule state hrule hsample hmatched
      have heq := Option.some.inj (he.symm.trans (evaluation_of_sample htask hrule hsample))
      obtain rfl : e.rule = rule := congrArg Evaluation.rule heq
      obtain rfl : e.state = state := congrArg Evaluation.state heq
      constructor
      · exact (Function.update_self _ _ _).trans hmatched
      · exact (Function.update_self _ _ _).trans (if_pos hmatched)
    by_cases hacts : s.engine.acts e = true
    · have hdue : (s.engine.check s.pool).task = .due e.snapshot e.now e.i e.rule e.state := by
        rw [hcheck, after_task, if_pos hacts]
      obtain ⟨stats, hrun⟩ := run_visit_due env hdue
      rw [hrun, hcheck]
      refine ⟨rfl, rfl, rfl, rfl, fun j hj => ?_, .inr (Function.update_self _ _ _), hevaluated⟩
      obtain ⟨hactive, hsince⟩ := after_slots (e := e) s.engine j hj
      exact ⟨hactive, hsince, Function.update_of_ne hj _ _⟩
    · have hscan : (s.engine.check s.pool).task = .scanning e.snapshot e.now (e.i + 1) := by
        rw [hcheck, after_task, if_neg hacts]
      rw [run_visit_scanning env hscan, hcheck]
      refine ⟨rfl, rfl, rfl, hcheck ▸ hscan, fun j hj => ?_, .inl rfl, hevaluated⟩
      obtain ⟨hactive, hsince⟩ := after_slots (e := e) s.engine j hj
      exact ⟨hactive, hsince, rfl⟩

end Visit

/-! ### A cycle -/

/-- The task goes through `n` rules. -/
def visits (env : ExecEnv) : Nat → List MonitorStep
  | 0 => []
  | n + 1 => visit env ++ visits env n

/-- What going through `n` rules from rule `k` on leaves alone. -/
structure Passed (snapshot : List AutomationRule) (now : Int) (k n : Nat) (s s' : Monitor) :
    Prop where
  pool : s'.pool = s.pool
  rules : s'.engine.rules = s.engine.rules
  timer : s'.engine.timer = s.engine.timer
  task : s'.engine.task = .scanning snapshot now (k + n)
  others : ∀ j, j < k ∨ k + n ≤ j → s'.engine.conditionActive j = s.engine.conditionActive j ∧
    s'.engine.conditionSince j = s.engine.conditionSince j ∧
      s'.engine.lastTrigger j = s.engine.lastTrigger j

theorem passed (env : ExecEnv) {snapshot : List AutomationRule} {now : Int} {k n : Nat}
    {s : Monitor} (htask : s.engine.task = .scanning snapshot now k)
    (hn : k + n ≤ snapshot.length) :
    Passed snapshot now k n s (run Monitor.step s (visits env n)) := by
  induction n generalizing k s with
  | zero => exact ⟨rfl, rfl, rfl, htask, fun _ _ => ⟨rfl, rfl, rfl⟩⟩
  | succ n ih =>
    have hfirst := visited env htask (by omega)
    have hrest := ih hfirst.task (by omega)
    rw [visits, run_append]
    refine ⟨hrest.pool.trans hfirst.pool, hrest.rules.trans hfirst.rules,
      hrest.timer.trans hfirst.timer, ?_, ?_⟩
    · rw [hrest.task, Nat.add_assoc, Nat.add_comm 1 n]
    · intro j hj
      obtain ⟨ha, hs, hl⟩ := hfirst.others j (by omega)
      obtain ⟨ha', hs', hl'⟩ := hrest.others j (by omega)
      exact ⟨ha'.trans ha, hs'.trans hs, hl'.trans hl⟩

/-- The condition of slot `i` has come to hold at a time after 0. -/
structure Holding (s : Monitor) (i : Nat) (now : Int) : Prop where
  active : s.engine.conditionActive i = true
  since : 0 < s.engine.conditionSince i ∧ s.engine.conditionSince i ≤ now
  last : s.engine.lastTrigger i ≤ now

theorem visits_add (env : ExecEnv) (m n : Nat) :
    visits env (m + n) = visits env m ++ visits env n := by
  induction m with
  | zero => rw [Nat.zero_add, visits, List.nil_append]
  | succ m ih => rw [Nat.add_right_comm, visits, visits, ih, List.append_assoc]

def wholeCycle (env : ExecEnv) (rules : List AutomationRule) : List MonitorStep :=
  .cycle :: (visits env rules.length ++ [.check])

theorem reach_rule (env : ExecEnv) {s : Monitor} {i : Nat} (hidle : s.engine.task = .idle)
    (hi : i ≤ s.engine.rules.length) :
    Passed s.engine.rules s.engine.uptime 0 i s
      (run Monitor.step s (.cycle :: visits env i)) := by
  have hcycle : s.engine.cycle =
      { s.engine with task := .scanning s.engine.rules s.engine.uptime 0 } := by
    simp only [AutomationEngine.cycle, hidle]
  have hpassed := passed env (s := { s with engine := s.engine.cycle }) (n := i)
    (by rw [hcycle]) (by omega)
  rw [hcycle] at hpassed
  have hrun : run Monitor.step s (.cycle :: visits env i) =
      run Monitor.step { s with engine := s.engine.cycle } (visits env i) := rfl
  rw [hrun, hcycle]
  exact ⟨hpassed.pool, hpassed.rules, hpassed.timer, hpassed.task, hpassed.others⟩

theorem holding_of_cycle (env : ExecEnv) {s : Monitor} {i : Nat} {rule : AutomationRule}
    {state : TcmContext} (hidle : s.engine.task = .idle) (hrule : s.engine.rules[i]? = some rule)
    (hsample : AutomationEngine.sampleOf rule s.pool = some state)
    (hmatched : s.engine.matched rule i state = true) (hnow : 0 < s.engine.uptime)
    (hsince : s.engine.conditionSince i = 0) (hlast : s.engine.lastTrigger i = 0) :
    ∃ s', run Monitor.step s (wholeCycle env s.engine.rules) = s' ∧
      s'.pool = s.pool ∧ s'.engine.rules = s.engine.rules ∧ s'.engine.timer = s.engine.timer ∧
        s'.engine.task = .idle ∧ Holding s' i s.engine.uptime := by
  have hlt : i < s.engine.rules.length := (List.getElem?_eq_some_iff.1 hrule).1
  obtain ⟨m, hm⟩ := Nat.exists_eq_add_of_lt hlt
  have hbefore := reach_rule env hidle hlt.le
  generalize hs₁ : run Monitor.step s (.cycle :: visits env i) = s₁ at hbefore
  obtain ⟨hactive₁, hsince₁, hlast₁⟩ := hbefore.others i (by omega)
  have hvisit := visited env hbefore.task (by omega)
  generalize hs₂ : run Monitor.step s₁ (visit env) = s₂ at hvisit
  have hafter := passed env (n := m) hvisit.task (by omega)
  generalize hs₃ : run Monitor.step s₂ (visits env m) = s₃ at hafter
  obtain ⟨hactive₃, hsince₃, hlast₃⟩ := hafter.others i (by omega)
  have hend : s₃.engine.check s₃.pool = { s₃.engine with task := .idle } := by
    have hnone : s.engine.rules[0 + i + 1 + m]? = none := List.getElem?_eq_none (by omega)
    simp only [AutomationEngine.check, hafter.task, hnone]
  refine ⟨{ s₃ with engine := { s₃.engine with task := .idle } }, ?_, ?_, ?_, ?_, rfl, ?_⟩
  · have hsplit : wholeCycle env s.engine.rules =
        (.cycle :: visits env i) ++ (visit env ++ (visits env m ++ [.check])) := by
      rw [wholeCycle, hm, Nat.add_assoc, visits_add, visits, List.append_assoc, List.append_assoc]
      rfl
    rw [hsplit, run_append, hs₁, run_append, hs₂, run_append, hs₃]
    show { s₃ with engine := s₃.engine.check s₃.pool } = _
    rw [hend]
  · exact hafter.pool.trans (hvisit.pool.trans hbefore.pool)
  · exact hafter.rules.trans (hvisit.rules.trans hbefore.rules)
  · exact hafter.timer.trans (hvisit.timer.trans hbefore.timer)
  · have hindex : 0 + i = i := Nat.zero_add i
    rw [hindex] at hvisit
    have hmatched₁ : s₁.engine.matched rule i state = true := by
      rw [AutomationEngine.matched, hactive₁]
      exact hmatched
    obtain ⟨hactive₂, hsince₂⟩ := hvisit.evaluated rule state hrule (hbefore.pool ▸ hsample)
      hmatched₁
    have hfresh : s₁.engine.sinceAt s.engine.uptime i = s.engine.uptime := by
      rw [AutomationEngine.sinceAt, if_pos (hsince₁.trans hsince)]
    rw [hfresh] at hsince₂
    refine ⟨hactive₃.trans hactive₂, ?_, ?_⟩
    · show 0 < s₃.engine.conditionSince i ∧ s₃.engine.conditionSince i ≤ _
      rw [hsince₃, hsince₂]
      exact ⟨hnow, le_refl _⟩
    · show s₃.engine.lastTrigger i ≤ _
      rw [hlast₃]
      rcases hvisit.last with hold | hnew
      · rw [hold, hlast₁, hlast]
        exact hnow.le
      · exact hnew.le

/-! ### Acting on a failed poll -/

theorem update_length_le (ctx : TcmContext) (pool : StatePool) :
    (tcmStatePoolUpdate ctx pool).states.length ≤ pool.states.length + 1 := by
  unfold tcmStatePoolUpdate updateStates
  simp only
  split
  · rw [List.length_set]
    omega
  · split
    · rw [List.length_append, List.length_singleton]
    · rw [List.length_set]
      omega

theorem get_update_self {ctx : TcmContext} {pool : StatePool} {device point : CStr}
    (hroom : pool.states.length < pool.capacity) (hnames : ctx.names = (device, point)) :
    tcmStatePoolGet device point (tcmStatePoolUpdate ctx pool) = some ctx := by
  rw [tcmStatePoolGet_update (.inr hroom), if_pos hnames]

/-- The interlock point is read with the value that the rule asks for. -/
def satisfy (rule : AutomationRule) : List MonitorStep :=
  if rule.interlockDevice.str = [] ∨ rule.interlockPoint.str = [] then []
  else [reads rule.interlockDevice rule.interlockPoint
    (wordsOf (.fin (if rule.interlockRequiredState then 1 else 0)))]

/-- After this the interlock allows the rule, and the task stands where it stood. -/
theorem satisfied {s : Monitor} (rule : AutomationRule)
    (hroom : s.pool.states.length < s.pool.capacity) :
    interlockAllows rule (run Monitor.step s (satisfy rule)).pool = true ∧
      (run Monitor.step s (satisfy rule)).engine = s.engine := by
  unfold satisfy interlockAllows
  by_cases hnone : rule.interlockDevice.str = [] ∨ rule.interlockPoint.str = []
  · rw [if_pos hnone, if_pos hnone]
    exact ⟨rfl, rfl⟩
  · rw [if_neg hnone, if_neg hnone]
    obtain ⟨ctx, hsample, hstep⟩ := reads_step (not_or.1 hnone)
      (v := .fin (if rule.interlockRequiredState then 1 else 0))
      (by cases rule.interlockRequiredState <;> simp) s
    rw [run_cons, run_nil, hstep]
    refine ⟨?_, rfl⟩
    rw [get_update_self hroom hsample.names]
    simp only [hsample.value, hsample.quality]
    cases rule.interlockRequiredState <;> simp [CFloat.ne0]

/-- What `execute_rule` finds in the runs below. -/
def idleEnv : ExecEnv where
  control := { mcpWriteEnabled := false, llroundRest := fun _ => 0 }
  amm := .empty ammFallbackMappingEntries
  answer := .ok
  dataPrefix := []
  publish := .ok

section Violation

variable {s : Monitor} {i : Nat} {rule : AutomationRule}

/-- A rule at its interlock on an invalid sample acts when the interlock point suits it. -/
theorem interlock_violates {state : TcmContext}
    (hdue : s.engine.task.dueSample = some (rule, state))
    (hinvalid : state.qualityState = .invalid) (hallows : interlockAllows rule s.pool = true) :
    ¬ ActsOnValid s .interlock := fun h => h (rule, state) hdue hallows hinvalid

/-- The next cycle of a rule that holds, over a failed sample of its point. -/
theorem cycle_violates {before : Int} {state : TcmContext} (hidle : s.engine.task = .idle)
    (hrule : s.engine.rules[i]? = some rule) (hholding : Holding s i before)
    (htime : before + rule.holdMs.toNat + rule.cooldownMs.toNat ≤ s.engine.uptime)
    (hsample : AutomationEngine.sampleOf rule s.pool = some state)
    (hvalue : state.value = .fin 0) (hinvalid : state.qualityState = .invalid)
    (hzero : conditionMatches rule (.fin 0) true = true)
    (hroom : s.pool.states.length < s.pool.capacity) :
    ¬ AllSteps Monitor.step ActsOnValid s
      ((.cycle :: visits idleEnv i) ++ (.check :: (satisfy rule ++ [.interlock]))) := by
  have hlt : i < s.engine.rules.length := (List.getElem?_eq_some_iff.1 hrule).1
  have hreached := reach_rule idleEnv hidle hlt.le
  generalize hs₁ : run Monitor.step s (.cycle :: visits idleEnv i) = s₁ at hreached
  obtain ⟨hactive, hsince, hlast⟩ := hreached.others i (by omega)
  have hscan : s₁.engine.task = .scanning s.engine.rules s.engine.uptime i := by
    rw [hreached.task, Nat.zero_add]
  obtain ⟨-, -, hcheck⟩ := evaluation_eq_some
    (evaluation_of_sample hscan hrule (hreached.pool.symm ▸ hsample))
  have hmatched : s₁.engine.matched rule i state = true := by
    rw [AutomationEngine.matched, hvalue, toFloat_zero, hactive, hholding.active]
    exact hzero
  have htimers : s₁.engine.timersOver rule s.engine.uptime i = true := by
    obtain ⟨hpos, hle⟩ := hholding.since
    have hsinceAt : s₁.engine.sinceAt s.engine.uptime i = s.engine.conditionSince i := by
      rw [AutomationEngine.sinceAt, hsince, if_neg (by omega)]
    have hlast' := hholding.last
    simp only [AutomationEngine.timersOver, hsinceAt, hlast]
    simp only [Bool.not_eq_true', Bool.or_eq_false_iff, decide_eq_false_iff_not]
    constructor <;> omega
  have hdue : (s₁.step .check).engine.task =
      .due s.engine.rules s.engine.uptime i rule state := by
    show (s₁.engine.check s₁.pool).task = _
    rw [hcheck, after_task, if_pos (by rw [AutomationEngine.acts, hmatched, htimers]; rfl)]
  obtain ⟨hallows, hsame⟩ := satisfied (s := s₁.step .check) rule (by
    show s₁.pool.states.length < s₁.pool.capacity
    rw [hreached.pool]
    exact hroom)
  rw [allSteps_append, hs₁]
  rintro ⟨-, -, hafter⟩
  obtain ⟨-, hacts, -⟩ := (allSteps_append _ _ _).1 hafter
  have hsample : (run Monitor.step (s₁.step .check) (satisfy rule)).engine.task.dueSample =
      some (rule, state) := by
    rw [hsame, hdue]
    rfl
  exact interlock_violates hsample hinvalid hallows hacts

/-- The cycle in which the rule comes to hold, and the failed poll after it. -/
theorem holding_violates {state : TcmContext} (henabled : rule.enabled = true)
    (hidle : s.engine.task = .idle) (hrule : s.engine.rules[i]? = some rule)
    (hget : tcmStatePoolGet rule.sourceDevice.str rule.sourcePoint.str s.pool = some state)
    (hmatched : s.engine.matched rule i state = true) (hnow : 0 < s.engine.uptime)
    (hsince : s.engine.conditionSince i = 0) (hlast : s.engine.lastTrigger i = 0)
    (hzero : conditionMatches rule (.fin 0) true = true)
    (hroom : s.pool.states.length + 1 < s.pool.capacity) :
    ∃ steps, ¬ AllSteps Monitor.step ActsOnValid s steps := by
  have hsample : ∀ {pool : StatePool} {x : TcmContext},
      tcmStatePoolGet rule.sourceDevice.str rule.sourcePoint.str pool = some x →
        AutomationEngine.sampleOf rule pool = some x := by
    intro pool x hx
    rw [AutomationEngine.sampleOf, if_neg (by rw [henabled]; decide), hx]
  obtain ⟨s₁, hrun, hpool, hrules, htimer, hidle₁, hholding⟩ :=
    holding_of_cycle idleEnv hidle hrule (hsample hget) hmatched hnow hsince hlast
  let failed := failedState (floatPoint rule.sourceDevice rule.sourcePoint) 0 .online
  let delay := (rule.holdMs.toNat + rule.cooldownMs.toNat) * 1000
  let s₂ : Monitor := ⟨tcmStatePoolUpdate failed s₁.pool,
    { s₁.engine with timer := s₁.engine.timer + delay }⟩
  have hlen := update_length_le failed s₁.pool
  have hcapacity : s₁.pool.capacity = s.pool.capacity := congrArg StatePool.capacity hpool
  have hviolates : ¬ AllSteps Monitor.step ActsOnValid s₂
      ((.cycle :: visits idleEnv i) ++ (.check :: (satisfy rule ++ [.interlock]))) := by
    have hfailed : tcmStatePoolGet rule.sourceDevice.str rule.sourcePoint.str s₂.pool =
        some failed := get_update_self (by rw [hpool]; omega) rfl
    refine cycle_violates hidle₁ (hrules.symm ▸ hrule)
      ⟨hholding.active, hholding.since, hholding.last⟩ ?_ (hsample hfailed) rfl rfl hzero ?_
    · have huptime : s₂.engine.uptime = ((s.engine.timer + delay) / 1000 : Nat) := by
        show (((s₁.engine.timer + delay) / 1000 : Nat) : Int) = _
        rw [htimer]
      rw [huptime]
      show ((s.engine.timer / 1000 : Nat) : Int) + _ + _ ≤ _
      omega
    · show (tcmStatePoolUpdate failed s₁.pool).states.length < s₁.pool.capacity
      rw [hcapacity]
      rw [hpool] at hlen ⊢
      omega
  refine ⟨wholeCycle idleEnv s.engine.rules ++
    (fails rule.sourceDevice rule.sourcePoint :: .wait delay ::
      ((.cycle :: visits idleEnv i) ++ (.check :: (satisfy rule ++ [.interlock])))), ?_⟩
  rw [allSteps_append, hrun, allSteps_cons, allSteps_cons]
  rintro ⟨-, -, -, hrest⟩
  exact hviolates hrest

end Violation

/-- **An enabled rule whose condition 0 can meet acts on a failed poll in some run.** -/
theorem start_violates (psram : Bool) {R : RuleSet} (nextId : SeqId) (timer : Nat)
    {rule : AutomationRule} (hrule : rule ∈ R.rules) (henabled : rule.enabled = true)
    (hzero : conditionMatches rule (.fin 0) true = true) :
    ∃ steps, ¬ AllSteps Monitor.step ActsOnValid (.start psram R nextId timer) steps := by
  obtain ⟨i, hi⟩ := List.mem_iff_getElem?.1 hrule
  obtain ⟨ctx, hsample, hread⟩ := reads_step (R.sourced rule hrule) (v := activating rule)
    (by unfold activating; cases rule.conditionOperator <;> simp)
    (Monitor.start psram R nextId timer)
  let s : Monitor := ⟨tcmStatePoolUpdate ctx (.empty (poolCapacity psram)),
    { AutomationEngine.boot (some ⟨nextId, R.rules⟩) timer with timer := timer + 1000 }⟩
  have hcapacity : 64 ≤ poolCapacity psram := by cases psram <;> decide
  have hget : tcmStatePoolGet rule.sourceDevice.str rule.sourcePoint.str s.pool = some ctx :=
    get_update_self (show 0 < poolCapacity psram by omega) hsample.names
  have hlen : s.pool.states.length ≤ 1 := update_length_le ctx (.empty (poolCapacity psram))
  have hboot : s.engine.rules = R.rules := if_pos R.fits
  have hmatched : s.engine.matched rule i ctx = true := by
    show conditionMatches rule (toFloat ctx.value) false = true
    rw [hsample.value, toFloat_activating]
    exact conditionMatches_activating hzero
  obtain ⟨steps, hsteps⟩ := holding_violates (s := s) henabled rfl (hboot.symm ▸ hi)
    hget hmatched (show (0 : Int) < ((timer + 1000) / 1000 : Nat) by omega) rfl rfl hzero
    (show s.pool.states.length + 1 < poolCapacity psram by omega)
  refine ⟨reads rule.sourceDevice rule.sourcePoint (wordsOf (activating rule)) ::
    .wait 1000 :: steps, ?_⟩
  rw [allSteps_cons, hread, allSteps_cons]
  rintro ⟨-, -, hrest⟩
  exact hsteps hrest

/-- **Every action of every run starts on a valid sample exactly when no enabled
rule has a condition that 0 meets, its hysteresis included.** -/
theorem acts_on_valid_iff (psram : Bool) (R : RuleSet) (nextId : SeqId) (timer : Nat) :
    (∀ steps, AllSteps Monitor.step ActsOnValid (.start psram R nextId timer) steps) ↔
      ∀ rule ∈ R.rules, rule.enabled = true → IgnoresZero rule := by
  constructor
  · intro h rule hrule henabled
    by_contra hmeets
    obtain ⟨steps, hsteps⟩ := start_violates psram nextId timer hrule henabled
      (Bool.eq_true_of_not_eq_false hmeets)
    exact hsteps (h steps)
  · intro hR steps
    have hall : AllSteps Monitor.step (fun _ _ => True) (.start psram R nextId timer) steps :=
      (allSteps_iff_split _ _).2 fun _ _ _ _ => trivial
    have hkeep : ∀ s a, Unharmed R s → True → Unharmed R (s.step a) := fun s a h _ => h.step hR a
    exact allSteps_of_inv hkeep (fun _ a h _ => h.acts a) (unharmed_start psram R nextId timer) hall

def coldAlert : AutomationRule where
  id := 1
  enabled := true
  name := .copy 48 "cold".toList
  sourceDevice := .copy 32 "boiler".toList
  sourcePoint := .copy 32 "temp".toList
  conditionOperator := .lt
  threshold := .fin 10
  hysteresis := .fin 0
  holdMs := 0
  cooldownMs := 1000
  interlockDevice := .empty
  interlockPoint := .empty
  interlockRequiredState := false
  action := .mqttAlert
  targetDevice := .empty
  targetPoint := .empty
  targetValue := .fin 0
  alertTopic := .empty
  alertMessage := .copy 128 "too cold".toList

/-- The one poll of the boiler fails, and the alert goes out. -/
theorem alert_on_failed_poll :
    ¬ ∀ steps, AllSteps Monitor.step ActsOnValid
      (.start false ⟨[coldAlert], by decide, by decide +kernel⟩ 2 0) steps := by
  intro h
  obtain ⟨-, -, -, -, hacts, -⟩ := h [fails coldAlert.sourceDevice coldAlert.sourcePoint,
    .wait 2000000, .cycle, .check, .interlock]
  revert hacts
  show ¬ ∀ d ∈ AutomationTask.dueSample _, _
  decide +kernel

end McpGateway.Automation
