import McpGateway.Scheduler.Poll
import McpGateway.Tcm.StatePool

/-!
# The telemetry pipeline

`modbus_poll_task` and `context_build_task` as one machine. A step is what a
task does between two points where another task can run: each call that takes
the AMM lock or the pool lock, and each queue call. `log` is a ghost: the polls
finished so far, with the entry each was made with. `history_store_append` and
the counters are left out.
-/

namespace McpGateway.Scheduler

open McpGateway.Lib McpGateway.Tcm McpGateway.Amm McpGateway.Modbus

/-- A finished poll: its entry, and the registers if it was answered. -/
structure Poll where
  entry : AmmMappingEntry
  regs : Option (List UInt16)
  deriving DecidableEq

/-- A result on its way, with the place of its poll in the log. -/
structure RawItem where
  result : ModbusReadResult
  poll : Nat

/-- Where `modbus_poll_task` stands. -/
inductive PollTask
  | idle
  | copied (mappings : List AmmMappingEntry)
  | selected (cfg : AmmMappingEntry) (nowMs : Int)
  | answered (item : RawItem)

/-- Where `context_build_task` stands; `enriched` is the result of `amm_enrich_context`. -/
inductive BuildTask
  | idle
  | received (item : RawItem)
  | built (ctx : TcmContext) (enriched : EspErr) (poll : Nat)
  | stored (ctx : TcmContext) (enriched : EspErr) (poll : Nat)

structure Pipeline where
  amm : AmmTable
  poll : PollTask
  lastPollMs : Nat → Int
  observedVersion : SeqId
  raw : List RawItem
  build : BuildTask
  pool : StatePool
  contexts : List TcmContext
  log : List Poll

/-- Both tasks before their first loop. -/
def Pipeline.start (amm : AmmTable) (pool : StatePool) : Pipeline where
  amm := amm
  poll := .idle
  lastPollMs := fun _ => 0
  observedVersion := 0
  raw := []
  build := .idle
  pool := pool
  contexts := []
  log := []

/-! ## Selection -/

def effectiveInterval (dflt : UInt32) (e : AmmMappingEntry) : UInt32 :=
  if e.pollIntervalMs ≠ 0 then e.pollIntervalMs else dflt

/-- Entry `i` is preferred to the one selected so far: polled longer ago, or as
long ago and of higher priority. -/
def preferred (last : Nat → Int) (i : Nat) (e : AmmMappingEntry) :
    Option (Nat × AmmMappingEntry) → Bool
  | none => true
  | some (j, s) =>
    decide (last i < last j) || decide (last i = last j) && decide (e.priority > s.priority)

/-- The selection loop from index `i` on. -/
def selectLoop (dflt : UInt32) (nowMs : Int) (last : Nat → Int) :
    List AmmMappingEntry → Nat → Option (Nat × AmmMappingEntry) → Option (Nat × AmmMappingEntry)
  | [], _, selected => selected
  | e :: es, i, selected =>
    if nowMs - last i < (effectiveInterval dflt e).toNat then
      selectLoop dflt nowMs last es (i + 1) selected
    else if preferred last i e selected then
      selectLoop dflt nowMs last es (i + 1) (some (i, e))
    else selectLoop dflt nowMs last es (i + 1) selected

/-- The poll times after the model version was compared. -/
def refreshedLast (s : Pipeline) : Nat → Int :=
  if s.amm.modelVersion ≠ s.observedVersion then fun _ => 0 else s.lastPollMs

/-- The entry a loop at `nowMs` selects from its copy of the table. -/
def Pipeline.selection (s : Pipeline) (nowMs : Int) : Option (Nat × AmmMappingEntry) :=
  match s.poll with
  | .copied mappings => selectLoop s.amm.defaultPollMs nowMs (refreshedLast s) mappings 0 none
  | _ => none

theorem selectLoop_mem {dflt : UInt32} {nowMs : Int} {last : Nat → Int}
    {es : List AmmMappingEntry} {i : Nat} {selected : Option (Nat × AmmMappingEntry)}
    {r : Nat × AmmMappingEntry} (h : selectLoop dflt nowMs last es i selected = some r) :
    r.2 ∈ es ∨ selected = some r := by
  induction es generalizing i selected with
  | nil => exact .inr h
  | cons e es ih =>
    rw [selectLoop] at h
    split at h
    · exact (ih h).imp_left (List.mem_cons_of_mem e)
    · split at h
      · rcases ih h with hmem | heq
        · exact .inl (List.mem_cons_of_mem e hmem)
        · rw [← Option.some.inj heq]
          exact .inl List.mem_cons_self
      · exact (ih h).imp_left (List.mem_cons_of_mem e)

/-! ## Building -/

/-- The context of a result with the source fields of the result. -/
def rawContext (r : ModbusReadResult) (ctx : TcmContext) : TcmContext :=
  { ctx with
    sourceProtocol := r.sourceProtocol
    channelId := r.channelId
    valueText := r.valueText }

/-- `tcm_build_context`, `amm_enrich_context` and `tcm_validate` on a result:
the result of the enrichment and the context, unless one of the others rejects it. -/
def buildContext (env : BuildEnv) (net : NetworkState) (a : AmmTable) (r : ModbusReadResult) :
    Option (EspErr × TcmContext) :=
  match tcmBuildContext env r.slaveId r.functionCode r.registerAddress r.rawValue r.quality net with
  | none => none
  | some ctx =>
    let built := ammEnrichContext a (rawContext r ctx)
    if tcmValidate built.2 then some built else none

section Built

variable {env : BuildEnv} {net : NetworkState} {a : AmmTable} {r : ModbusReadResult}

theorem rawContext_of_built {base : TcmContext}
    (h : tcmBuildContext env r.slaveId r.functionCode r.registerAddress r.rawValue r.quality net =
      some base) :
    contextKey (rawContext r base) = r.key ∧ (rawContext r base).value = r.rawValue ∧
      (rawContext r base).qualityState = r.quality ∧ (rawContext r base).valueText = r.valueText := by
  unfold tcmBuildContext at h
  split at h
  · cases h
  · obtain rfl := Option.some.inj h
    exact ⟨rfl, rfl, rfl, rfl⟩

/-- A context built with a mapping: the raw fields of the result, enriched with
the mapping found under its key. -/
theorem buildContext_enriched {ctx : TcmContext}
    (h : buildContext env net a r = some (.ok, ctx)) :
    ∃ base e, ammFindMappingForObject r.key a = some e ∧ ctx = enrichWith e base ∧
      base.value = r.rawValue ∧ base.qualityState = r.quality ∧ base.valueText = r.valueText := by
  unfold buildContext at h
  split at h
  · cases h
  · rename_i base hbase
    obtain ⟨hkey, hvalue, hquality, htext⟩ := rawContext_of_built hbase
    simp only [ammEnrichContext, hkey] at h
    cases hfind : ammFindMappingForObject r.key a with
    | none =>
      rw [hfind] at h
      simp only at h
      split at h <;> cases h
    | some e =>
      rw [hfind] at h
      simp only at h
      split at h
      · cases h
        exact ⟨_, e, rfl, rfl, hvalue, hquality, htext⟩
      · cases h

/-- A result is accepted when its key leads to an entry with names and a valid
slave and function code. -/
theorem buildContext_isSome {e : AmmMappingEntry} (hfind : ammFindMappingForObject r.key a = some e)
    (hslave : r.slaveId ≠ 0 ∧ r.slaveId ≤ 247)
    (hfunction : r.functionCode ∈ ([1, 2, 3, 4] : List UInt8))
    (hnames : e.deviceId.str ≠ [] ∧ e.pointId.str ≠ []) : (buildContext env net a r).isSome := by
  have hrange : ¬ (r.slaveId = 0 ∨ r.functionCode < 1 ∨ r.functionCode > 4) := by
    rintro (h | h)
    · exact hslave.1 h
    · simp only [List.mem_cons, List.not_mem_nil, or_false] at hfunction
      rcases hfunction with hf | hf | hf | hf <;> rw [hf] at h <;> revert h <;> decide
  obtain ⟨base, hbase⟩ := Option.isSome_iff_exists.1
    (tcmBuildContext_isSome hrange env r.registerAddress r.rawValue r.quality net)
  have hkey := (rawContext_of_built hbase).1
  have hvalid : tcmValidate (enrichWith e (rawContext r base)) = true := by
    have hs : (rawContext r base).slaveId = r.slaveId := congrArg PhysicalKey.slaveId hkey
    have hf : (rawContext r base).functionCode = r.functionCode :=
      congrArg PhysicalKey.functionCode hkey
    refine tcmValidate_iff.2 ⟨hnames.1, hnames.2, ?_, ?_⟩
    · show ¬ ((rawContext r base).slaveId = 0 ∨ (rawContext r base).slaveId > 247)
      rw [hs]
      rintro (h | h)
      · exact hslave.1 h
      · exact absurd hslave.2 (UInt8.not_le.2 h)
    · show (rawContext r base).functionCode ∈ _
      rw [hf]
      exact (List.prefix_append [1, 2, 3, 4] _).subset hfunction
  unfold buildContext
  simp only [hbase, ammEnrichContext, hkey, hfind, hvalid, if_true]
  rfl

theorem buildContext_found (env : BuildEnv) (net : NetworkState) {e : AmmMappingEntry}
    (hfind : ammFindMappingForObject r.key a = some e)
    (hslave : r.slaveId ≠ 0 ∧ r.slaveId ≤ 247)
    (hfunction : r.functionCode ∈ ([1, 2, 3, 4] : List UInt8))
    (hnames : e.deviceId.str ≠ [] ∧ e.pointId.str ≠ []) :
    ∃ base, buildContext env net a r = some (.ok, enrichWith e base) ∧
      base.value = r.rawValue ∧ base.qualityState = r.quality := by
  obtain ⟨built, hbuilt⟩ := Option.isSome_iff_exists.1
    (buildContext_isSome hfind hslave hfunction hnames : (buildContext env net a r).isSome)
  rw [hbuilt]
  unfold buildContext at hbuilt
  split at hbuilt
  · cases hbuilt
  · rename_i base hbase
    obtain ⟨hkey, hvalue, hquality, -⟩ := rawContext_of_built hbase
    simp only [ammEnrichContext, hkey, hfind] at hbuilt
    split at hbuilt
    · exact ⟨rawContext r base, hbuilt.symm, hvalue, hquality⟩
    · cases hbuilt

end Built

/-! ## Steps -/

inductive PipelineStep
  | mutate (op : AmmOp)
  | copy
  | select (nowMs : Int)
  | answer (reply : Nat → Option (List UInt16)) (net : NetworkState)
  | send
  | receive
  | build (env : BuildEnv) (net : NetworkState)
  | store
  | push
  | publish

def Pipeline.copy (s : Pipeline) : Pipeline :=
  match s.poll with
  | .idle => { s with poll := .copied s.amm.entries }
  | _ => s

def Pipeline.select (s : Pipeline) (nowMs : Int) : Pipeline :=
  match s.poll with
  | .copied _ =>
    match s.selection nowMs with
    | none =>
      { s with
        poll := .idle
        lastPollMs := refreshedLast s
        observedVersion := s.amm.modelVersion }
    | some (i, cfg) =>
      { s with
        poll := .selected cfg nowMs
        lastPollMs := Function.update (refreshedLast s) i nowMs
        observedVersion := s.amm.modelVersion }
  | _ => s

/-- The read of the selected entry ends; a failure goes to the pool at once. -/
def Pipeline.answer (s : Pipeline) (reply : Nat → Option (List UInt16)) (net : NetworkState) :
    Pipeline :=
  match s.poll with
  | .selected cfg nowMs =>
    let regs := pollRead cfg reply
    { s with
      poll := .answered ⟨pollResult cfg regs, s.log.length⟩
      pool := if regs.isSome then s.pool else tcmStatePoolUpdate (failedState cfg nowMs net) s.pool
      log := s.log ++ [⟨cfg, regs⟩] }
  | _ => s

/-- `xQueueSend` on the raw queue; a full queue drops the result. -/
def Pipeline.send (s : Pipeline) : Pipeline :=
  match s.poll with
  | .answered item =>
    { s with
      poll := .idle
      raw := if s.raw.length < queueRawDataSize then s.raw ++ [item] else s.raw }
  | _ => s

/-- `xQueueReceive` on the raw queue; invalid results are skipped. -/
def Pipeline.receive (s : Pipeline) : Pipeline :=
  match s.build, s.raw with
  | .idle, item :: rest =>
    { s with
      raw := rest
      build := if item.result.valid then .received item else .idle }
  | _, _ => s

def Pipeline.buildStep (s : Pipeline) (env : BuildEnv) (net : NetworkState) : Pipeline :=
  match s.build with
  | .received item =>
    match buildContext env net s.amm item.result with
    | none => { s with build := .idle }
    | some (enriched, ctx) => { s with build := .built ctx enriched item.poll }
  | _ => s

def Pipeline.store (s : Pipeline) : Pipeline :=
  match s.build with
  | .built ctx enriched poll =>
    { s with build := .stored ctx enriched poll, pool := tcmStatePoolUpdate ctx s.pool }
  | _ => s

/-- `xQueueSend` on the context queue; a full queue drops the context. -/
def Pipeline.push (s : Pipeline) : Pipeline :=
  match s.build with
  | .stored ctx _ _ =>
    { s with
      build := .idle
      contexts := if s.contexts.length < queueContextSize then s.contexts ++ [ctx] else s.contexts }
  | _ => s

def Pipeline.step (s : Pipeline) : PipelineStep → Pipeline
  | .mutate op => { s with amm := op.apply s.amm }
  | .copy => s.copy
  | .select nowMs => s.select nowMs
  | .answer reply net => s.answer reply net
  | .send => s.send
  | .receive => s.receive
  | .build env net => s.buildStep env net
  | .store => s.store
  | .push => s.push
  | .publish => { s with contexts := s.contexts.tail }

/-! ## Results on their way -/

def PollTask.items : PollTask → List RawItem
  | .answered item => [item]
  | _ => []

def BuildTask.items : BuildTask → List RawItem
  | .received item => [item]
  | _ => []

/-- The results not built yet, oldest first. -/
def Pipeline.items (s : Pipeline) : List RawItem := s.build.items ++ s.raw ++ s.poll.items

/-- The item is the result of a poll of the log. -/
def Pipeline.Traced (s : Pipeline) (item : RawItem) (p : Poll) : Prop :=
  s.log[item.poll]? = some p ∧ item.result = pollResult p.entry p.regs

section Items

variable (s : Pipeline)

@[simp] theorem items_copy : s.copy.items = s.items := by
  unfold Pipeline.copy
  split
  · rename_i h
    simp [Pipeline.items, h, PollTask.items]
  · rfl

@[simp] theorem items_select (nowMs : Int) : (s.select nowMs).items = s.items := by
  unfold Pipeline.select
  split
  · rename_i h
    split <;> simp [Pipeline.items, h, PollTask.items]
  · rfl

theorem items_answer {cfg : AmmMappingEntry} {nowMs : Int} (h : s.poll = .selected cfg nowMs)
    (reply : Nat → Option (List UInt16)) (net : NetworkState) :
    (s.answer reply net).items =
      s.items ++ [⟨pollResult cfg (pollRead cfg reply), s.log.length⟩] := by
  simp [Pipeline.answer, Pipeline.items, h, PollTask.items]

theorem items_send : s.send.items = s.items ∨ s.raw.length ≥ queueRawDataSize ∧
    ∃ item, s.poll = .answered item ∧ s.send.items = s.build.items ++ s.raw := by
  unfold Pipeline.send
  split
  · rename_i item h
    by_cases hroom : s.raw.length < queueRawDataSize
    · simp [Pipeline.items, h, PollTask.items, hroom]
    · refine .inr ⟨Nat.le_of_not_lt hroom, item, h, ?_⟩
      simp [Pipeline.items, PollTask.items, hroom]
  · exact .inl rfl

theorem items_receive : s.receive.items = s.items ∨
    ∃ item, item.result.valid = false ∧ s.items = item :: s.receive.items := by
  unfold Pipeline.receive
  split
  · rename_i item rest hbuild hraw
    cases hv : item.result.valid with
    | true => simp [Pipeline.items, hbuild, hraw, BuildTask.items]
    | false => exact .inr ⟨item, hv, by simp [Pipeline.items, hbuild, hraw, BuildTask.items]⟩
  · exact .inl rfl

theorem items_build {item : RawItem} (h : s.build = .received item) (env : BuildEnv)
    (net : NetworkState) : s.items = item :: (s.buildStep env net).items := by
  unfold Pipeline.buildStep
  rw [h]
  simp only
  split <;> simp [Pipeline.items, h, BuildTask.items]

@[simp] theorem items_store : s.store.items = s.items := by
  unfold Pipeline.store
  split
  · rename_i h
    simp [Pipeline.items, h, BuildTask.items]
  · rfl

@[simp] theorem items_push : s.push.items = s.items := by
  unfold Pipeline.push
  split
  · rename_i h
    simp [Pipeline.items, h, BuildTask.items]
  · rfl

end Items

end McpGateway.Scheduler
