import McpGateway.Tcm.Json
import McpGateway.Thingscloud.Topics

/-!
# The ThingsCloud adapter

`thingscloud_adapter.c`: the token-bucket limiter, the two aggregation
buffers, the packet builders, and the live and replay paths, for the
ThingsCloud platform. Every function takes the adapter's statics and returns
them with the messages it handed to the MQTT client. Buffer allocation and the
adapter lock do not fail; counters and clocks used for logging only are left
out.
-/

namespace McpGateway.Thingscloud

open McpGateway.Lib McpGateway.Tcm

inductive ReportMode
  | subdevice
  | gateway
  deriving DecidableEq, Repr

inductive Payload
  | json (doc : Json)
  | text (s : CStr)

/-- A message handed to the MQTT client. -/
structure Publish where
  topic : TcTopic
  payload : Payload

inductive CloudValue
  | bool (b : Bool)
  | integer (i : Int)
  | number (x : CFloat)
  | string (s : CBuf 64)
  deriving DecidableEq

/-- `cloud_property_update_t`. -/
structure CloudProperty where
  deviceAddress : CBuf 40
  propertyKey : CBuf 64
  value : CloudValue
  timestampMs : Int
  quality : QualityState
  deriving DecidableEq

structure Adapter where
  agg : List CloudProperty
  gwAgg : List CloudProperty
  throttledCount : Nat
  droppedCount : Nat
  lastPublishMs : Int
  lastResponseCode : Int
  uploadSuspended : Bool
  rateBlockUntilMs : Int
  rateTokens : Int
  rateLastMs : Int
  configGeneration : Nat
  lastReportMode : Option ReportMode

def Adapter.boot : Adapter where
  agg := []
  gwAgg := []
  throttledCount := 0
  droppedCount := 0
  lastPublishMs := 0
  lastResponseCode := 0
  uploadSuspended := false
  rateBlockUntilMs := 0
  rateTokens := 1
  rateLastMs := 0
  configGeneration := 0
  lastReportMode := none

/-- What a call sees of its surroundings: the configured report mode, the
clock, the MQTT connection, and which messages the client takes. -/
structure LinkEnv where
  reportMode : ReportMode
  nowMs : Int
  connected : Bool
  clientAccepts : Publish → Bool

def rateBucketTokens : Int := 1
def rateRefillMs : Int := 30000
def aggBufferMax : Nat := 96
def maxPayloadBytes : Nat := 1024

/-! ## Rate limiter -/

def tcRateRefill (a : Adapter) (nowMs : Int) : Adapter :=
  if a.rateLastMs = 0 then { a with rateLastMs := nowMs }
  else
    let elapsed := nowMs - a.rateLastMs
    if elapsed < rateRefillMs then a
    else
      let add := elapsed / rateRefillMs
      { a with
        rateTokens := min (a.rateTokens + add) rateBucketTokens
        rateLastMs := a.rateLastMs + add * rateRefillMs }

def tcRateAllow (a : Adapter) (nowMs : Int) : Bool × Adapter :=
  if a.uploadSuspended ∨ nowMs < a.rateBlockUntilMs then (false, a)
  else
    let a := tcRateRefill a nowMs
    if a.rateTokens > 0 then (true, { a with rateTokens := a.rateTokens - 1 }) else (false, a)

/-- `mqtt_publish` as the adapter sees it. -/
def mqttPublish (env : LinkEnv) (p : Publish) : EspErr :=
  if env.clientAccepts p then .ok else .fail

/-- The result of a call: its error, the new statics and what was sent. -/
structure Out where
  err : EspErr
  adapter : Adapter
  sent : List Publish

def tcPublishTelemetry (env : LinkEnv) (a : Adapter) (p : Publish) : Out :=
  let r := tcRateAllow a env.nowMs
  if r.1 = false then ⟨.noMem, { r.2 with throttledCount := r.2.throttledCount + 1 }, []⟩
  else if mqttPublish env p = .ok then ⟨.ok, { r.2 with lastPublishMs := env.nowMs }, [p]⟩
  else ⟨.fail, r.2, []⟩

/-! ## Gateway property keys -/

def tcKeyCharValid (c : Char) : Bool :=
  ('a' ≤ c && c ≤ 'z') || ('A' ≤ c && c ≤ 'Z') || ('0' ≤ c && c ≤ '9') || c = '_'

def gatewayKeyValid (key : CStr) : Bool := key ≠ [] && key.all tcKeyCharValid

/-- `build_gateway_property_key` into a buffer of `n` bytes. -/
def buildGatewayPropertyKey (portId slaveId : UInt8) (propertyKey : CStr) (n : Nat) :
    Except EspErr CStr :=
  if n = 0 then .error .invalidArg
  else if gatewayKeyValid propertyKey = false then .error .invalidArg
  else
    let key := 'p' :: printDecimal portId.toNat ++ "_s".toList ++ printDecimal slaveId.toNat ++
      '_' :: propertyKey
    if key.length ≥ n then .error .invalidSize else .ok key

/-- A report-mode switch clears both aggregation buffers. -/
def checkModeChange (a : Adapter) (mode : ReportMode) : Adapter :=
  if a.lastReportMode = some mode then a
  else
    { a with
      lastReportMode := some mode
      configGeneration := a.configGeneration + 1
      agg := []
      gwAgg := [] }

/-! ## Packets -/

def valueJson : CloudValue → Json
  | .bool b => .bool b
  | .integer i => .num (.fin i)
  | .number x => .num x
  | .string s => .str s.str

/-- `add_property_to_object`. -/
def addProperty (fields : List (CStr × Json)) (p : CloudProperty) : List (CStr × Json) :=
  fields ++ [(p.propertyKey.str, valueJson p.value)]

/-- The fields of a sub-device packet, by device address. -/
abbrev DeviceFields := List (CStr × List (CStr × Json))

def devicesJson (root : DeviceFields) : Json := .obj (root.map fun d => (d.1, .obj d.2))

def publishJsonObject (lib : JsonLib) (env : LinkEnv) (a : Adapter) (doc : Json)
    (topic : TcTopic) : Out :=
  if (lib.printUnformatted doc).length > maxPayloadBytes then ⟨.invalidSize, a, []⟩
  else tcPublishTelemetry env a ⟨topic, .json doc⟩

/-- The state of a packet builder's loop. -/
structure Pack (α : Type) where
  root : List (CStr × α)
  inPack : Nat
  firstErr : EspErr
  adapter : Adapter
  sent : List Publish

/-- Adds a property under its device, which is created when missing. -/
def addToDevice (root : DeviceFields) (p : CloudProperty) : DeviceFields :=
  match getItem root p.deviceAddress.str with
  | some fields => updateItem root p.deviceAddress.str (addProperty fields p)
  | none => root ++ [(p.deviceAddress.str, addProperty [] p)]

/-- Takes the property just added out again, and its device when that leaves it empty. -/
def dropFromDevice (root : DeviceFields) (p : CloudProperty) : DeviceFields :=
  match getItem root p.deviceAddress.str with
  | some fields =>
    let rest := deleteItem fields p.propertyKey.str
    if rest = [] then deleteItem root p.deviceAddress.str
    else updateItem root p.deviceAddress.str rest
  | none => root

/-- Publishes the packet without the property that made it too long, if
anything else is in it. -/
def closePack (lib : JsonLib) (env : LinkEnv) (st : Pack (List (CStr × Json)))
    (root : DeviceFields) : Out :=
  if st.inPack > 0 then
    publishJsonObject lib env st.adapter (devicesJson root) .gatewayAttributes
  else ⟨.ok, st.adapter, []⟩

/-- The loop of `publish_subdevice_aggregated`; an error ends it. -/
def subdeviceLoop (lib : JsonLib) (env : LinkEnv) :
    List CloudProperty → Pack (List (CStr × Json)) → Pack (List (CStr × Json))
  | [], st => st
  | p :: props, st =>
    let root := addToDevice st.root p
    if (lib.printUnformatted (devicesJson root)).length ≤ maxPayloadBytes then
      subdeviceLoop lib env props { st with root := root, inPack := st.inPack + 1 }
    else
      let out := closePack lib env st (dropFromDevice root p)
      if out.err ≠ .ok then
        { st with
          root := dropFromDevice root p
          firstErr := out.err
          adapter := out.adapter
          sent := st.sent ++ out.sent }
      else
        let fresh : Pack (List (CStr × Json)) :=
          { root := addToDevice [] p
            inPack := 1
            firstErr := st.firstErr
            adapter := out.adapter
            sent := st.sent ++ out.sent }
        if (lib.printUnformatted (devicesJson fresh.root)).length > maxPayloadBytes then
          { fresh with firstErr := .invalidSize }
        else subdeviceLoop lib env props fresh

def publishSubdeviceAggregated (lib : JsonLib) (env : LinkEnv) (a : Adapter)
    (props : List CloudProperty) : Out :=
  if props = [] then ⟨.ok, a, []⟩
  else if env.connected = false then ⟨.invalidState, a, []⟩
  else
    let st := subdeviceLoop lib env props
      { root := [], inPack := 0, firstErr := .ok, adapter := a, sent := [] }
    if st.firstErr = .ok ∧ st.inPack > 0 then
      let out := publishJsonObject lib env st.adapter (devicesJson st.root) .gatewayAttributes
      ⟨out.err, out.adapter, st.sent ++ out.sent⟩
    else ⟨st.firstErr, st.adapter, st.sent⟩

def firstError (first err : EspErr) : EspErr := if first = .ok then err else first

/-- The loop of `publish_gw_attr_chunked`; an error does not end it. -/
def gwAttrLoop (lib : JsonLib) (env : LinkEnv) : List CloudProperty → Pack Json → Pack Json
  | [], st => st
  | p :: props, st =>
    if p.propertyKey.str = [] then gwAttrLoop lib env props st
    else
      let root := addProperty st.root p
      if (lib.printUnformatted (.obj root)).length > maxPayloadBytes ∧ st.inPack + 1 > 1 then
        let out := tcPublishTelemetry env st.adapter
          ⟨.attributes, .json (.obj (deleteItem root p.propertyKey.str))⟩
        gwAttrLoop lib env props
          { root := addProperty [] p
            inPack := 1
            firstErr := firstError st.firstErr out.err
            adapter := out.adapter
            sent := st.sent ++ out.sent }
      else gwAttrLoop lib env props { st with root := root, inPack := st.inPack + 1 }

def publishGwAttrChunked (lib : JsonLib) (env : LinkEnv) (a : Adapter)
    (props : List CloudProperty) : Out :=
  let st := gwAttrLoop lib env props
    { root := [], inPack := 0, firstErr := .ok, adapter := a, sent := [] }
  if st.inPack > 0 then
    let out := tcPublishTelemetry env st.adapter ⟨.attributes, .json (.obj st.root)⟩
    ⟨firstError st.firstErr out.err, out.adapter, st.sent ++ out.sent⟩
  else ⟨st.firstErr, st.adapter, st.sent⟩

def publishGatewayAttributes (lib : JsonLib) (env : LinkEnv) (a : Adapter)
    (props : List CloudProperty) : Out :=
  if props = [] ∨ env.connected = false then ⟨.invalidState, a, []⟩
  else publishGwAttrChunked lib env a props

/-! ## Ingestion and flush -/

/-- `memset(p, 0, sizeof(*p))`, then the two fields `fill_property_value` always sets. -/
def blankProperty (nowMs : Int) (ctx : TcmContext) : CloudProperty where
  deviceAddress := .empty
  propertyKey := .empty
  value := .bool false
  timestampMs := nowMs
  quality := ctx.qualityState

/-- The value `fill_property_value` reports, `none` where it returns false. -/
def propertyValue (ctx : TcmContext) : Option CloudValue :=
  match ctx.dataType, ctx.value with
  | .bool, x => some (.bool x.ne0)
  | .ascii, x => some (.string (.copy 64 x.printG))
  | .int16, .fin q | .uint16, .fin q | .int32, .fin q | .uint32, .fin q | .bcd16, .fin q =>
    if |q - nearbyint q| > 1 / 10 ^ 9 then some (.number (.fin q)) else some (.integer (trunc q))
  | _, .fin q => some (.number (.fin q))
  | _, _ => none

theorem propertyValue_finite {ctx : TcmContext} {q : ℚ} (h : ctx.value = .fin q) :
    (propertyValue ctx).isSome := by
  unfold propertyValue
  rw [h]
  cases ctx.dataType <;> simp only [Option.isSome_some] <;> split <;> rfl

/-- `fill_property_value`: the property, and whether it got a value. -/
def fillPropertyValue (nowMs : Int) (ctx : TcmContext) : Bool × CloudProperty :=
  match propertyValue ctx with
  | some v => (true, { blankProperty nowMs ctx with value := v })
  | none => (false, blankProperty nowMs ctx)

/-- Puts a sample into the slot of its key, or into a new slot while there is
room. A sample without a value leaves its slot blank. -/
def addToBuffer (buffer : List CloudProperty) (same : CloudProperty → Bool)
    (filled : Bool × CloudProperty) (name : CloudProperty → CloudProperty) :
    List CloudProperty :=
  let p := if filled.1 then name filled.2 else filled.2
  match buffer.findIdx? same with
  | some i => buffer.set i p
  | none => if buffer.length ≥ aggBufferMax then buffer else buffer ++ [p]

def addContextToAgg (nowMs : Int) (ctx : TcmContext) (a : Adapter) : Adapter :=
  let address := (formatDeviceAddress ctx.channelId ctx.slaveId 40).2
  let same (p : CloudProperty) : Bool :=
    p.deviceAddress.str = address ∧ p.propertyKey.str = ctx.pointId.str
  let name (p : CloudProperty) : CloudProperty :=
    { p with deviceAddress := .copy 40 address, propertyKey := .copy 64 ctx.pointId.str }
  { a with agg := addToBuffer a.agg same (fillPropertyValue nowMs ctx) name }

/-- The key of a point in gateway mode: the custom one when set, else the
generated one. -/
def gatewayKey (ctx : TcmContext) : Except EspErr CStr :=
  if ctx.gatewayPropertyKey.str ≠ [] then
    if gatewayKeyValid ctx.gatewayPropertyKey.str then .ok ctx.gatewayPropertyKey.str
    else .error .invalidArg
  else buildGatewayPropertyKey (ctx.channelId + 1) ctx.slaveId ctx.pointId.str 64

def addContextToGwAgg (nowMs : Int) (ctx : TcmContext) (a : Adapter) : Adapter :=
  match gatewayKey ctx with
  | .error _ => a
  | .ok key =>
    let same (p : CloudProperty) : Bool := p.propertyKey.str = key
    let name (p : CloudProperty) : CloudProperty := { p with propertyKey := .copy 64 key }
    { a with gwAgg := addToBuffer a.gwAgg same (fillPropertyValue nowMs ctx) name }

/-- `thingscloud_flush`. `hold` is `uif_replay_is_waiting_response() ||
uif_get_cached_count() > 0`. -/
def thingscloudFlush (lib : JsonLib) (env : LinkEnv) (hold : Bool) (a : Adapter) :
    Adapter × List Publish :=
  if hold then (a, [])
  else
    let a := checkModeChange a env.reportMode
    match env.reportMode with
    | .gateway =>
      if a.gwAgg = [] then (a, [])
      else
        let out := publishGatewayAttributes lib env a a.gwAgg
        (if out.err = .ok then { out.adapter with gwAgg := [] } else out.adapter, out.sent)
    | .subdevice =>
      if a.agg = [] then (a, [])
      else
        let out := publishSubdeviceAggregated lib env a a.agg
        (if out.err = .ok then { out.adapter with agg := [] } else out.adapter, out.sent)

def bufferFull (a : Adapter) : ReportMode → Bool
  | .gateway => decide (a.gwAgg.length ≥ aggBufferMax)
  | .subdevice => decide (a.agg.length ≥ aggBufferMax)

def flushIfFull (lib : JsonLib) (env : LinkEnv) (hold : Bool) (a : Adapter) :
    Adapter × List Publish :=
  if bufferFull a env.reportMode then thingscloudFlush lib env hold a else (a, [])

def addContext (env : LinkEnv) (ctx : TcmContext) (a : Adapter) : Adapter :=
  match env.reportMode with
  | .gateway => addContextToGwAgg env.nowMs ctx a
  | .subdevice => addContextToAgg env.nowMs ctx a

def thingscloudPublishContext (lib : JsonLib) (env : LinkEnv) (hold : Bool) (ctx : TcmContext)
    (a : Adapter) : Adapter × List Publish :=
  if ctx.qualityState ≠ .good ∨ ctx.pointId.str = [] then (a, [])
  else
    let f := flushIfFull lib env hold (checkModeChange a env.reportMode)
    let a := checkModeChange f.1 env.reportMode
    if bufferFull a env.reportMode then ({ a with droppedCount := a.droppedCount + 1 }, f.2)
    else
      let g := flushIfFull lib env hold (addContext env ctx a)
      (g.1, f.2 ++ g.2)

def thingscloudReplayContext (lib : JsonLib) (env : LinkEnv) (ctx : TcmContext) (a : Adapter) :
    Out :=
  if env.connected = false then ⟨.invalidState, a, []⟩
  else if ctx.qualityState ≠ .good ∨ ctx.pointId.str = [] then ⟨.invalidArg, a, []⟩
  else
    let filled := fillPropertyValue env.nowMs ctx
    if filled.1 = false then ⟨.invalidArg, a, []⟩
    else match env.reportMode with
      | .gateway =>
        match gatewayKey ctx with
        | .error e => ⟨e, a, []⟩
        | .ok key =>
          publishGatewayAttributes lib env a [{ filled.2 with propertyKey := .copy 64 key }]
      | .subdevice =>
        let address := formatDeviceAddress ctx.channelId ctx.slaveId 40
        if address.1 = none then ⟨.invalidSize, a, []⟩
        else publishSubdeviceAggregated lib env a
          [{ filled.2 with
            deviceAddress := .copy 40 address.2, propertyKey := .copy 64 ctx.pointId.str }]

/-! ## Status reports -/

/-- What `thingscloud_publish_gateway_status` reads from the system. -/
structure GatewayStatus where
  freeHeap : Nat
  uptimeS : Nat
  activeUplink : CStr
  wifiRssi : Int
  onlineCount : Nat
  errorCount : Nat
  cacheCount : Nat

def gatewayStatusJson (s : GatewayStatus) : Json :=
  .obj [("firmware_version".toList, .str "1.0.0".toList),
    ("free_heap".toList, jsonNat s.freeHeap),
    ("uptime".toList, jsonNat s.uptimeS),
    ("network_type".toList, .str (if s.activeUplink = [] then "offline".toList else s.activeUplink)),
    ("wifi_rssi".toList, .num (.fin s.wifiRssi)),
    ("rs485_online_count".toList, jsonNat s.onlineCount),
    ("rs485_error_count".toList, jsonNat s.errorCount),
    ("cache_count".toList, jsonNat s.cacheCount)]

def publishGatewayStatus (env : LinkEnv) (s : GatewayStatus) (a : Adapter) : Out :=
  if env.connected = false then ⟨.invalidState, a, []⟩
  else tcPublishTelemetry env a ⟨.attributes, .json (gatewayStatusJson s)⟩

inductive SlaveState
  | unknown
  | online
  | offline
  deriving DecidableEq, Repr

structure SlaveStatus where
  portId : UInt8
  slaveId : UInt8
  state : SlaveState
  lastSeenMs : Int
  errorCount : Nat
  dataValid : Bool

def slaveFields (s : SlaveStatus) : List (CStr × Json) :=
  let base := 'p' :: printDecimal (s.portId.toNat + 1) ++ "_s".toList ++
    printDecimal s.slaveId.toNat
  let status := match s.state with
    | .unknown => "unknown".toList
    | .online => "online".toList
    | .offline => "offline".toList
  [(base ++ "_online".toList, .bool (s.state = .online)),
    (base ++ "_comm_status".toList, .str status),
    (base ++ "_last_seen".toList, .num (.fin s.lastSeenMs)),
    (base ++ "_error_count".toList, jsonNat s.errorCount),
    (base ++ "_data_valid".toList, .bool s.dataValid)]

def slaveStatusJson (slaves : List SlaveStatus) : Json :=
  let count (t : SlaveState) := (slaves.filter fun s => s.state = t).length
  let bus : CStr :=
    if slaves = [] then "empty".toList
    else if count .online = 0 then "offline".toList
    else if count .offline > 0 ∨ count .unknown > 0 then "degraded".toList
    else "normal".toList
  .obj (slaves.flatMap slaveFields ++
    [("rs485_device_total".toList, jsonNat slaves.length),
      ("rs485_online_count".toList, jsonNat (count .online)),
      ("rs485_offline_count".toList, jsonNat (count .offline)),
      ("rs485_unknown_count".toList, jsonNat (count .unknown)),
      ("rs485_error_count".toList,
        jsonNat ((slaves.map SlaveStatus.errorCount).sum % 2 ^ 32)),
      ("rs485_bus_status".toList, .str bus)])

def publishGatewaySlaveStatus (env : LinkEnv) (slaves : List SlaveStatus) (a : Adapter) : Out :=
  if env.reportMode ≠ .gateway then ⟨.ok, a, []⟩
  else if env.connected = false then ⟨.invalidState, a, []⟩
  else tcPublishTelemetry env a ⟨.attributes, .json (slaveStatusJson slaves)⟩

/-! ## Responses and reconnects -/

def recordPublishResponse (nowMs : Int) (accepted : Bool) (errorCode : Int) (a : Adapter) :
    Adapter :=
  let a := { a with lastResponseCode := if accepted then 0 else errorCode }
  if errorCode = 403 then { a with rateTokens := 0, rateBlockUntilMs := nowMs + 60000 }
  else if errorCode = 413 then { a with uploadSuspended := true }
  else a

def clearPublishGuard (nowMs : Int) (a : Adapter) : Adapter :=
  { a with
    lastResponseCode := 0
    uploadSuspended := false
    rateBlockUntilMs := 0
    rateTokens := rateBucketTokens
    rateLastMs := nowMs }

def onMqttConnected (env : LinkEnv) (a : Adapter) : Adapter :=
  { checkModeChange a env.reportMode with
    rateTokens := rateBucketTokens, rateLastMs := env.nowMs }

end McpGateway.Thingscloud
