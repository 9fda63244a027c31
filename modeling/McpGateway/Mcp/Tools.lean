import McpGateway.Automation.Engine
import McpGateway.Mcp.TokenStore
import McpGateway.Runtime.Settings
import McpGateway.Tcm.Json
import McpGateway.Web.MappingJson

/-!
# The MCP tools

The tools of `mcp_http.c` behind `tool_call`: what each answers, and what it does
to the gateway. `tool_effect` says once what a call can do; which scope and which
switch it needs follows from it. Allocations are taken to succeed.
-/

namespace McpGateway.Mcp

open McpGateway.Lib McpGateway.Tcm McpGateway.Amm McpGateway.Automation McpGateway.Runtime
open McpGateway.Services

/-! ## Discovery -/

inductive DiscoverPhase
  | idle | busScan | registerScan | complete | error
  deriving DecidableEq, Repr

/-- `s_scan_task`, the task state in `s_result`, and `s_bus_request`. -/
structure DiscoverScan where
  task : Bool
  inProgress : Bool
  complete : Bool
  phase : DiscoverPhase
  lastError : EspErr
  request : Option (UInt8 × UInt8)
  deriving DecidableEq

/-- `modbus_discover_scan_bus`; the task it creates only reads from the bus. -/
def modbusDiscoverScanBus (start stop : UInt8) (created : Bool) (d : DiscoverScan) :
    EspErr × DiscoverScan :=
  if d.task ∨ d.inProgress then (.invalidState, d)
  else if start < 1 ∨ 247 < stop ∨ stop < start then (.invalidArg, d)
  else if created then
    (.ok, ⟨true, true, false, .busScan, .ok, some (start, stop)⟩)
  else (.noMem, ⟨d.task, false, true, .error, .noMem, some (start, stop)⟩)

/-! ## What a call finds -/

/-- What the tools read and change. -/
structure Gateway where
  config : RuntimeConfig
  amm : AmmTable
  pool : StatePool
  automation : AutomationEngine
  discover : DiscoverScan

/-- `offline_store_stats_t`. -/
structure OfflineStoreStats where
  flashRecords : Nat
  tfRecords : Nat
  flashOldestSequence : SeqId
  tfOldestSequence : SeqId
  flashOldestValid : Bool
  tfOldestValid : Bool
  flashReady : Bool
  tfMounted : Bool

inductive LogStoreStream
  | system | modbus
  deriving DecidableEq, Repr

/-- What the calls of a tool return: the cache counters, the log files, the
results of `llround` left open, and how the Modbus write, the NVS calls and the
creation of the scan task end. -/
structure ToolEnv where
  cachedCount : Nat
  cacheUsagePercent : Nat
  dataLossCount : Nat
  store : OfflineStoreStats
  log : LogStoreStream → Option CStr
  llroundRest : CFloat → Int64
  answer : EspErr
  save : SaveEnv
  taskCreated : Bool

/-- A tool's value (`none` is a null pointer) with its error flag, the gateway
after the call and the Modbus write sent. -/
structure ToolOutcome where
  value : Option Json
  isError : Bool
  gateway : Gateway
  sent : Option ModbusWrite

def Gateway.answers (g : Gateway) (value : Option Json) (isError : Bool) : ToolOutcome :=
  ⟨value, isError, g, none⟩

def field (key : String) (value : Json) : CStr × Json := (key.toList, value)

def jsonText (text : String) : Json := .str text.toList

def errorJson (text : String) : Json := .obj [field "error" (jsonText text)]

/-! ## The tools that read -/

def pointJson (pool : StatePool) (m : AmmMappingEntry) : Json :=
  let state := match tcmStatePoolGet m.deviceId.str m.pointId.str pool with
    | some state =>
      [field "value" (.num state.value), field "timestamp_ms" (.num (.fin state.timestampMs)),
        field "quality_state" (jsonNat (Web.qualityCode state.qualityState))]
    | none => []
  .obj ([field "device_id" (.str m.deviceId.str), field "point_id" (.str m.pointId.str),
    field "name" (.str m.measurementName.str), field "unit" (.str m.unit.str),
    field "writable" (.bool m.constraint.writable),
    field "mapping_version" (jsonNat m.mappingVersion.val)] ++ state)

def callListPoints (g : Gateway) : Json := .arr (g.amm.entries.map (pointJson g.pool))

def RuleOperator.name : RuleOperator → CStr
  | .gt => "gt".toList
  | .gte => "gte".toList
  | .lt => "lt".toList
  | .lte => "lte".toList
  | .eq => "eq".toList
  | .neq => "neq".toList

def parseRuleOperator (value : CStr) : Option RuleOperator :=
  ([.gt, .gte, .lt, .lte, .eq, .neq] : List RuleOperator).find? fun op =>
    decide (RuleOperator.name op = value)

def RuleAction.name : RuleAction → CStr
  | .writePoint => "write_point".toList
  | .mqttAlert => "mqtt_alert".toList

/-- The fields of a rule from its name to its action, as previews and lists have them. -/
def ruleFields (rule : AutomationRule) : List (CStr × Json) :=
  [field "name" (.str rule.name.str), field "source_device" (.str rule.sourceDevice.str),
    field "source_point" (.str rule.sourcePoint.str),
    field "operator" (.str (RuleOperator.name rule.conditionOperator)),
    field "threshold" (.num rule.threshold), field "hysteresis" (.num rule.hysteresis),
    field "hold_ms" (jsonNat rule.holdMs.toNat),
    field "cooldown_ms" (jsonNat rule.cooldownMs.toNat),
    field "action" (.str (RuleAction.name rule.action))]

def targetFields (rule : AutomationRule) : List (CStr × Json) :=
  [field "target_device" (.str rule.targetDevice.str),
    field "target_point" (.str rule.targetPoint.str),
    field "target_value" (.num rule.targetValue)]

def ruleResponse (rule : AutomationRule) (valid applied : Bool) (reason : CStr) (id : SeqId) :
    Json :=
  let action := match rule.action with
    | .writePoint => targetFields rule
    | .mqttAlert =>
      [field "alert_topic" (.str rule.alertTopic.str),
        field "alert_message" (.str rule.alertMessage.str)]
  .obj ([field "valid" (.bool valid), field "applied" (.bool applied),
      field "reason" (.str reason)] ++
    (if id ≠ 0 then [field "rule_id" (jsonNat id.val)] else []) ++
    [field "preview" (.obj (ruleFields rule ++ action ++ [field "enabled" (.bool rule.enabled)]))])

/-- What `add_rule_to_json` adds. -/
def ruleJson (rule : AutomationRule) : Json :=
  .obj ([field "rule_id" (jsonNat rule.id.val), field "enabled" (.bool rule.enabled)] ++
    ruleFields rule ++ targetFields rule ++ [field "alert_topic" (.str rule.alertTopic.str)])

def callListRules (g : Gateway) : Json :=
  .obj [field "rules" (.arr (g.automation.rules.map ruleJson)),
    field "stats" (.obj [field "evaluations" (jsonNat g.automation.stats.evaluations.toNat),
      field "triggers" (jsonNat g.automation.stats.triggers.toNat),
      field "failures" (jsonNat g.automation.stats.failures.toNat)])]

/-- The lines `fgets` reads into a buffer of 384 bytes, without their ends;
`fuel` bounds their number. -/
def logLines : Nat → CStr → List CStr
  | 0, _ => []
  | fuel + 1, file =>
    match fgets 384 file with
    | none => []
    | some (line, rest) =>
      (((cutAt ['\x00'] line).reverse.dropWhile fun c => c = '\n' ∨ c = '\r').reverse) ::
        logLines fuel rest

/-- `collect_log_file`: the last `capacity` lines, read from near the end of the file. -/
def collectLogFile (capacity : Nat) (file : CStr) : List CStr :=
  let start := file.length - capacity * 384
  let window := file.drop start
  let window := if start > 0 then ((fgets 384 window).map Prod.snd).getD [] else window
  let lines := logLines window.length window
  lines.drop (lines.length - capacity)

def callExportLogs (env : ToolEnv) (arguments : Json) : Json × Bool :=
  let name := (Json.string? (arguments.getObjectItem "stream".toList)).getD "system".toList
  let selected : Option LogStoreStream :=
    if name = "system".toList then some .system
    else if name = "modbus".toList then some .modbus else none
  match selected with
  | none => (errorJson "stream must be system or modbus", true)
  | some stream =>
    let maxLines : Int := match Json.number? (arguments.getObjectItem "max_lines".toList) with
      | some limit => Json.valueInt limit
      | none => 100
    if maxLines < 1 ∨ 200 < maxLines then
      (errorJson "max_lines must be between 1 and 200", true)
    else
      let lines := ((env.log stream).map (collectLogFile maxLines.toNat)).getD []
      (.obj [field "stream" (.str name), field "line_count" (jsonNat lines.length),
        field "lines" (.arr (lines.map .str))], false)

/-- The answer of `read_point`; a record that does not fit its buffer is `{}`. -/
def callReadPoint (lib : JsonLib) (g : Gateway) (arguments : Json) : Option Json × Bool :=
  match Json.string? (arguments.getObjectItem "device_id".toList),
      Json.string? (arguments.getObjectItem "point_id".toList) with
  | some device, some point =>
    match tcmStatePoolGet device point g.pool with
    | some state =>
      match tcmSerializeJson lib state tcmMaxJsonLen with
      | some text => (lib.parse text, false)
      | none => (some (.obj []), false)
    | none => (some (errorJson "point has no current state"), true)
  | _, _ => (some (errorJson "point has no current state"), true)

def callGetGatewayConfig (g : Gateway) : Json :=
  .obj [field "gateway_id" (.str g.config.gatewayId.str),
    field "locale" (jsonText (if g.config.locale = .zhCn then "zh-CN" else "en-US")),
    field "prefer_ethernet" (.bool g.config.preferEthernet),
    field "mqtt_enabled" (.bool g.config.mqtt.enabled),
    field "mqtt_uri" (.str g.config.mqtt.uri.str),
    field "modbus_rtu_enabled" (.bool g.config.modbusRtu.enabled),
    field "amm_model_version" (jsonNat g.amm.modelVersion.val)]

def callGetCacheStatus (env : ToolEnv) : Json :=
  .obj ([field "records" (jsonNat env.cachedCount),
      field "usage_percent" (jsonNat env.cacheUsagePercent),
      field "data_loss" (jsonNat env.dataLossCount),
      field "flash_records" (jsonNat env.store.flashRecords),
      field "tf_records" (jsonNat env.store.tfRecords),
      field "flash_ready" (.bool env.store.flashReady),
      field "tf_mounted" (.bool env.store.tfMounted)] ++
    (if env.store.flashOldestValid then
      [field "flash_oldest_sequence" (jsonNat env.store.flashOldestSequence.val)] else []) ++
    (if env.store.tfOldestValid then
      [field "tf_oldest_sequence" (jsonNat env.store.tfOldestSequence.val)] else []))

/-! ## Rules -/

/-- `json_string`: whether it succeeds, and the buffer it leaves. -/
def jsonString (root : Json) (key : String) {n : Nat} [NeZero n] (old : CBuf n)
    (required : Bool) : Bool × CBuf n :=
  match Json.string? (root.getObjectItem key.toList) with
  | none => (!required, old)
  | some s => (!required || decide ((CBuf.copy n s).str ≠ []), .copy n s)

def optionalString (root : Json) (key : String) {n : Nat} [NeZero n] (old : CBuf n) : CBuf n :=
  (jsonString root key old false).2

/-- The rule `call_configure_rule` starts with. -/
def defaultRule : AutomationRule where
  id := 0
  enabled := true
  name := .empty
  sourceDevice := .empty
  sourcePoint := .empty
  conditionOperator := .gt
  threshold := .fin 0
  hysteresis := .fin 0
  holdMs := 0
  cooldownMs := 1000
  interlockDevice := .empty
  interlockPoint := .empty
  interlockRequiredState := false
  action := .mqttAlert
  targetDevice := .empty
  targetPoint := .empty
  targetValue := .fin 0
  alertTopic := .empty
  alertMessage := .empty

/-- The rule as far as it is read, with the buffers of its operator and its action. -/
structure RuleDraft where
  rule : AutomationRule
  operatorName : CBuf 8
  actionName : CBuf 16

/-- A rule as far as it was read, and why it is rejected. -/
abbrev RuleError := AutomationRule × String

def requireString (arguments : Json) (key : String) {n : Nat} [NeZero n]
    (put : CBuf n → RuleDraft) : Except RuleDraft RuleDraft :=
  let r := jsonString arguments key (CBuf.empty : CBuf n) true
  if r.1 then .ok (put r.2) else .error (put r.2)

/-- The required names; the first one that is missing ends the reading. -/
def readNames (arguments : Json) : Except RuleDraft RuleDraft := do
  let d : RuleDraft := ⟨defaultRule, .empty, .empty⟩
  let d ← requireString arguments "rule_name" fun s => { d with rule.name := s }
  let d ← requireString arguments "source_device" fun s => { d with rule.sourceDevice := s }
  let d ← requireString arguments "source_point" fun s => { d with rule.sourcePoint := s }
  let d ← requireString arguments "operator" fun s => { d with operatorName := s }
  requireString arguments "action" fun s => { d with actionName := s }

def readThreshold (arguments : Json) (d : RuleDraft) : Except RuleError AutomationRule :=
  match Json.number? (arguments.getObjectItem "threshold".toList),
      parseRuleOperator d.operatorName.str with
  | some threshold, some op =>
    if threshold.isFinite then
      .ok { d.rule with conditionOperator := op, threshold := toFloat threshold }
    else .error (d.rule, "invalid threshold or operator")
  | _, _ => .error (d.rule, "invalid threshold or operator")

def readHysteresis (arguments : Json) (rule : AutomationRule) : Except RuleError AutomationRule :=
  match Json.number? (arguments.getObjectItem "hysteresis".toList) with
  | some x =>
    if x.isFinite then .ok { rule with hysteresis := toFloat x }
    else .error (rule, "hysteresis must be finite")
  | none => .ok rule

/-- `(uint32_t)item->valuedouble` of a number, else the default. -/
def uint32Item (arguments : Json) (key : String) (dflt : UInt32) : UInt32 :=
  match Json.number? (arguments.getObjectItem key.toList) with
  | some x => UInt32.ofNat (x.toUInt 32)
  | none => dflt

def readSettings (arguments : Json) (rule : AutomationRule) : AutomationRule :=
  { rule with
    holdMs := uint32Item arguments "hold_ms" rule.holdMs
    cooldownMs := uint32Item arguments "cooldown_ms" rule.cooldownMs
    enabled := match arguments.getObjectItem "enabled".toList with
      | some (.bool b) => b
      | _ => rule.enabled
    interlockDevice := optionalString arguments "interlock_device" rule.interlockDevice
    interlockPoint := optionalString arguments "interlock_point" rule.interlockPoint
    interlockRequiredState :=
      Json.isTrue (arguments.getObjectItem "interlock_required_state".toList) }

def checkInterlock (a : AmmTable) (rule : AutomationRule) : Except RuleError Unit :=
  if ¬ (rule.interlockDevice.str = [] ↔ rule.interlockPoint.str = []) then
    .error (rule, "interlock device and point must be provided together")
  else if rule.interlockDevice.str ≠ [] ∧
      ammFindMappingByPoint rule.interlockDevice.str rule.interlockPoint.str a = none then
    .error (rule, "interlock point is not mapped")
  else .ok ()

def readTarget (a : AmmTable) (arguments : Json) (rule : AutomationRule) :
    Except RuleError AutomationRule :=
  let rule := { rule with action := .writePoint }
  let device := jsonString arguments "target_device" rule.targetDevice true
  let rule := { rule with targetDevice := device.2 }
  if device.1 = false then .error (rule, "missing write target")
  else
    let point := jsonString arguments "target_point" rule.targetPoint true
    let rule := { rule with targetPoint := point.2 }
    if point.1 = false then .error (rule, "missing write target")
    else
      match Json.number? (arguments.getObjectItem "target_value".toList),
          ammFindMappingByPoint rule.targetDevice.str rule.targetPoint.str a with
      | some x, some m =>
        if x.isFinite = false then .error (rule, "write target is not mapped")
        else
          let rule := { rule with targetValue := toFloat x }
          if m.constraint.writable = false ∨ outOfRange rule.targetValue m.constraint then
            .error (rule, "write target is read-only or value is outside its safe range")
          else .ok rule
      | _, _ => .error (rule, "write target is not mapped")

def readAction (a : AmmTable) (arguments : Json) (actionName : CStr) (rule : AutomationRule) :
    Except RuleError AutomationRule :=
  if actionName = "write_point".toList then readTarget a arguments rule
  else if actionName = "mqtt_alert".toList then
    .ok { rule with
      alertTopic := optionalString arguments "alert_topic" rule.alertTopic
      alertMessage := optionalString arguments "alert_message" rule.alertMessage }
  else .error (rule, "invalid rule action")

/-- The validation of `call_configure_rule`. -/
def checkRule (a : AmmTable) (arguments : Json) : Except RuleError AutomationRule := do
  let d ← (readNames arguments).mapError fun d => (d.rule, "missing required rule field")
  let rule ← readThreshold arguments d
  let rule ← readHysteresis arguments rule
  let rule := readSettings arguments rule
  if ammFindMappingByPoint rule.sourceDevice.str rule.sourcePoint.str a = none then
    .error (rule, "source point is not mapped")
  checkInterlock a rule
  let rule ← readAction a arguments d.actionName.str rule
  if rule.hysteresis.lt (.fin 0) ∨ rule.cooldownMs < 200 then
    .error (rule, "hysteresis must be non-negative and cooldown at least 200 ms")
  return rule

def callConfigureRule (env : ToolEnv) (g : Gateway) (arguments : Json) (commit : Bool) :
    ToolOutcome :=
  match checkRule g.amm arguments with
  | .error (rule, reason) =>
    g.answers (some (ruleResponse rule false false reason.toList 0)) true
  | .ok rule =>
    if commit = false then
      g.answers (some (ruleResponse rule true false
        "preview only; call rule_commit to apply".toList 0)) false
    else if g.config.mcpWriteEnabled = false then
      g.answers (some (ruleResponse rule true false
        "MCP configuration writes are disabled".toList 0)) true
    else
      let r := g.automation.automationUpsertRule rule env.save
      let id := match g.automation.upsertPlan rule with
        | .ok (slot, rules) => (rules[slot]?.map AutomationRule.id).getD 0
        | .error _ => 0
      { value := some (ruleResponse rule true (decide (r.1 = .ok))
          (if r.1 = .ok then "rule saved".toList else r.1.name) id)
        isError := decide (r.1 ≠ .ok)
        gateway := { g with automation := r.2 }
        sent := none }

/-! ## Calls -/

def toolRequiredScope (name : CStr) : UInt8 :=
  if name = "write_point".toList then mcpScopeWrite
  else if name = "rule_commit".toList then mcpScopeWrite
  else if name = "rule_delete".toList then mcpScopeWrite
  else if name = "discover_modbus_devices".toList then mcpScopeWrite
  else mcpScopeRead

def disabledReason : CStr := "MCP writes are disabled by gateway configuration".toList

def callWritePoint (env : ToolEnv) (g : Gateway) (arguments : Json) : ToolOutcome :=
  match Json.string? (arguments.getObjectItem "device_id".toList),
      Json.string? (arguments.getObjectItem "point_id".toList),
      Json.number? (arguments.getObjectItem "value".toList) with
  | some device, some point, some value =>
    if value.isFinite = false then
      g.answers (some (.obj [field "accepted" (.bool false),
        field "reason" (jsonText "invalid device/point/value")])) true
    else if g.config.mcpWriteEnabled = false then
      g.answers (some (.obj [field "accepted" (.bool false),
        field "reason" (.str disabledReason)])) true
    else
      let r := controlServiceWritePoint ⟨g.config.mcpWriteEnabled, env.llroundRest⟩ g.amm device
        point (toFloat value) .mcp env.answer
      { value := some (.obj [field "accepted" (.bool (decide (r.1.status = .ok))),
          field "reason" (.str (if r.1.reason.str ≠ [] then r.1.reason.str
            else r.1.status.name))])
        isError := decide (r.1.status ≠ .ok)
        gateway := g
        sent := r.2 }
  | _, _, _ =>
    g.answers (some (.obj [field "accepted" (.bool false),
      field "reason" (jsonText "invalid device/point/value")])) true

/-- `valueint` of a number, else the default. -/
def intItem (arguments : Json) (key : String) (dflt : Int) : Int :=
  match Json.number? (arguments.getObjectItem key.toList) with
  | some x => Json.valueInt x
  | none => dflt

def callDiscover (env : ToolEnv) (g : Gateway) (arguments : Json) : ToolOutcome :=
  let start := intItem arguments "slave_start" 1
  let stop := intItem arguments "slave_end" 247
  let r := if start < 1 ∨ 247 < stop ∨ stop < start then (EspErr.invalidArg, g.discover)
    else modbusDiscoverScanBus (UInt8.ofNat start.toNat) (UInt8.ofNat stop.toNat)
      env.taskCreated g.discover
  { value := some (.obj [field "started" (.bool (decide (r.1 = .ok))),
      field "status" (.str r.1.name)])
    isError := decide (r.1 ≠ .ok)
    gateway := { g with discover := r.2 }
    sent := none }

/-- The rule id of `rule_delete`: a whole number from 1 to `UINT32_MAX`. -/
def ruleId (arguments : Json) : Option SeqId :=
  match Json.number? (arguments.getObjectItem "rule_id".toList) with
  | some (.fin q) =>
    if 1 ≤ q ∧ q ≤ 2 ^ 32 - 1 ∧ q.den = 1 then some (Fin.ofNat _ q.num.toNat) else none
  | _ => none

def callRuleDelete (env : ToolEnv) (g : Gateway) (arguments : Json) : ToolOutcome :=
  if g.config.mcpWriteEnabled = false then
    g.answers (some (.obj [field "deleted" (.bool false),
      field "reason" (.str disabledReason)])) true
  else
    let r := match ruleId arguments with
      | none => (EspErr.invalidArg, g.automation)
      | some id => g.automation.automationDeleteRule id env.save
    { value := some (.obj [field "deleted" (.bool (decide (r.1 = .ok))),
        field "reason" (.str r.1.name)])
      isError := decide (r.1 ≠ .ok)
      gateway := { g with automation := r.2 }
      sent := none }

def toolCall (lib : JsonLib) (env : ToolEnv) (g : Gateway) (name : CStr) (arguments : Json) :
    ToolOutcome :=
  if name = "list_points".toList then g.answers (some (callListPoints g)) false
  else if name = "read_point".toList then
    g.answers (callReadPoint lib g arguments).1 (callReadPoint lib g arguments).2
  else if name = "write_point".toList then callWritePoint env g arguments
  else if name = "discover_modbus_devices".toList then callDiscover env g arguments
  else if name = "get_gateway_config".toList then g.answers (some (callGetGatewayConfig g)) false
  else if name = "get_cache_status".toList then g.answers (some (callGetCacheStatus env)) false
  else if name = "list_rules".toList then g.answers (some (callListRules g)) false
  else if name = "rule_preview".toList then callConfigureRule env g arguments false
  else if name = "rule_commit".toList then callConfigureRule env g arguments true
  else if name = "rule_delete".toList then callRuleDelete env g arguments
  else if name = "export_logs".toList then
    g.answers (some (callExportLogs env arguments).1) (callExportLogs env arguments).2
  else g.answers (some (errorJson "unknown tool")) true

/-! ## What a call does -/

/-- All that a call does to the gateway, and the write it sends. -/
inductive ToolEffect (g : Gateway) (name : CStr) : Gateway → Option ModbusWrite → Prop
  | unchanged : ToolEffect g name g none
  | write (w) (hscope : toolRequiredScope name = mcpScopeWrite)
      (hon : g.config.mcpWriteEnabled = true) : ToolEffect g name g (some w)
  | rules (automation) (hscope : toolRequiredScope name = mcpScopeWrite)
      (hon : g.config.mcpWriteEnabled = true) :
      ToolEffect g name { g with automation := automation } none
  | scan (discover) (hscope : toolRequiredScope name = mcpScopeWrite) :
      ToolEffect g name { g with discover := discover } none

section Effects

variable {lib : JsonLib} {env : ToolEnv} {g : Gateway} {name : CStr} {arguments : Json}

theorem toolRequiredScope_write (h : name = "write_point".toList ∨ name = "rule_commit".toList ∨
    name = "rule_delete".toList ∨ name = "discover_modbus_devices".toList) :
    toolRequiredScope name = mcpScopeWrite := by
  rcases h with rfl | rfl | rfl | rfl <;> rfl

theorem write_point_effect (hscope : toolRequiredScope name = mcpScopeWrite) :
    ToolEffect g name (callWritePoint env g arguments).gateway
      (callWritePoint env g arguments).sent := by
  unfold callWritePoint
  split
  · split_ifs with hfinite hoff
    · exact .unchanged
    · exact .unchanged
    · have hon : g.config.mcpWriteEnabled = true := eq_true_of_ne_false hoff
      rename_i device point value _ _ _
      dsimp only
      cases hsent : (controlServiceWritePoint ⟨g.config.mcpWriteEnabled, env.llroundRest⟩ g.amm
        device point (toFloat value) .mcp env.answer).2 with
      | none => exact .unchanged
      | some w => exact .write w hscope hon
  · exact .unchanged

theorem configure_rule_effect (commit : Bool)
    (hscope : commit = true → toolRequiredScope name = mcpScopeWrite) :
    ToolEffect g name (callConfigureRule env g arguments commit).gateway
      (callConfigureRule env g arguments commit).sent := by
  unfold callConfigureRule
  split
  · exact .unchanged
  · split_ifs with hpreview hoff
    · exact .unchanged
    · exact .unchanged
    · exact .rules _ (hscope (eq_true_of_ne_false hpreview)) (eq_true_of_ne_false hoff)

theorem rule_delete_effect (hscope : toolRequiredScope name = mcpScopeWrite) :
    ToolEffect g name (callRuleDelete env g arguments).gateway
      (callRuleDelete env g arguments).sent := by
  unfold callRuleDelete
  split_ifs with hoff
  · exact .unchanged
  · exact .rules _ hscope (eq_true_of_ne_false hoff)

theorem effect_ite {c : Prop} [Decidable c] {a b : ToolOutcome}
    (ha : c → ToolEffect g name a.gateway a.sent) (hb : ToolEffect g name b.gateway b.sent) :
    ToolEffect g name (if c then a else b).gateway (if c then a else b).sent := by
  split
  · rename_i hc
    exact ha hc
  · exact hb

/-- **What a tool call can do**, with any arguments. -/
theorem tool_effect (lib : JsonLib) (env : ToolEnv) (g : Gateway) (name : CStr)
    (arguments : Json) :
    ToolEffect g name (toolCall lib env g name arguments).gateway
      (toolCall lib env g name arguments).sent := by
  unfold toolCall
  refine effect_ite (fun _ => .unchanged) ?_
  refine effect_ite (fun _ => .unchanged) ?_
  refine effect_ite (fun h => write_point_effect (toolRequiredScope_write (.inl h))) ?_
  refine effect_ite (fun h => .scan _ (toolRequiredScope_write (.inr (.inr (.inr h))))) ?_
  refine effect_ite (fun _ => .unchanged) ?_
  refine effect_ite (fun _ => .unchanged) ?_
  refine effect_ite (fun _ => .unchanged) ?_
  refine effect_ite (fun _ => configure_rule_effect false fun h => absurd h Bool.false_ne_true) ?_
  refine effect_ite
    (fun h => configure_rule_effect true fun _ => toolRequiredScope_write (.inr (.inl h))) ?_
  refine effect_ite
    (fun h => rule_delete_effect (toolRequiredScope_write (.inr (.inr (.inl h))))) ?_
  exact effect_ite (fun _ => .unchanged) .unchanged

/-- A call that needs no WRITE scope changes nothing. -/
theorem ToolEffect.unprivileged {g' : Gateway} {sent : Option ModbusWrite}
    (h : ToolEffect g name g' sent) (hscope : toolRequiredScope name ≠ mcpScopeWrite) :
    g' = g ∧ sent = none := by
  cases h with
  | unchanged => exact ⟨rfl, rfl⟩
  | write w hwrite hon => exact absurd hwrite hscope
  | rules automation hwrite hon => exact absurd hwrite hscope
  | scan discover hwrite => exact absurd hwrite hscope

/-- With the switch off no call writes or changes a rule. -/
theorem ToolEffect.disabled {g' : Gateway} {sent : Option ModbusWrite}
    (h : ToolEffect g name g' sent) (hoff : g.config.mcpWriteEnabled = false) :
    g'.automation = g.automation ∧ sent = none := by
  cases h with
  | unchanged => exact ⟨rfl, rfl⟩
  | write w hscope hon => exact absurd hon (ne_true_of_eq_false hoff)
  | rules automation hscope hon => exact absurd hon (ne_true_of_eq_false hoff)
  | scan discover hscope => exact ⟨rfl, rfl⟩

theorem ToolEffect.kept {g' : Gateway} {sent : Option ModbusWrite}
    (h : ToolEffect g name g' sent) : g'.amm = g.amm ∧ g'.config = g.config := by
  cases h <;> exact ⟨rfl, rfl⟩

end Effects

end McpGateway.Mcp
