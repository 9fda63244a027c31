import McpGateway.Amm.Table
import McpGateway.Lib.Ieee
import McpGateway.Tcm.StatePool
import McpGateway.Thingscloud.Adapter

/-!
# Mapping entries as JSON

What `web_server.c` writes of a mapping entry and reads back: the objects of
`mappings_get_handler`, `mapping_entry_from_json`, and the reading half of
`mappings_post_handler`. Every field of an object is looked up without case, and
one that is missing or of another type leaves the default.
-/

namespace McpGateway.Web

open McpGateway.Lib McpGateway.Tcm McpGateway.Amm McpGateway.Thingscloud

/-! ## Names and codes -/

def dataTypeName : DataType → CStr
  | .int16 => "INT16".toList
  | .uint16 => "UINT16".toList
  | .float32 => "FLOAT32".toList
  | .int32 => "INT32".toList
  | .uint32 => "UINT32".toList
  | .bool => "BOOL".toList
  | .int64 => "INT64".toList
  | .uint64 => "UINT64".toList
  | .float64 => "FLOAT64".toList
  | .bcd16 => "BCD16".toList
  | .bitfield16 => "BITFIELD16".toList
  | .ascii => "ASCII".toList

def parseDataTypeName (name : CStr) : DataType :=
  parseName (([.int16, .uint16, .float32, .int32, .uint32, .bool, .int64, .uint64, .float64,
    .bcd16, .bitfield16, .ascii] : List DataType).map fun t => (dataTypeName t, t)) .uint16
    (some name)

theorem parseDataTypeName_name (t : DataType) : parseDataTypeName (dataTypeName t) = t := by
  cases t <;> decide

def protocolName : SourceProtocol → CStr
  | .modbusTcp => "TCP".toList
  | .modbusRtu => "RTU".toList

/-- `strcmp(name, "TCP") == 0 ? SRC_MODBUS_TCP : SRC_MODBUS_RTU`. -/
def parseProtocol (name : CStr) : SourceProtocol :=
  if name = "TCP".toList then .modbusTcp else .modbusRtu

theorem parseProtocol_name (p : SourceProtocol) : parseProtocol (protocolName p) = p := by
  cases p <;> decide

def topicModeName (mode : MqttTopicMode) : CStr :=
  if mode = .custom then "custom".toList else "auto".toList

def parseTopicMode (name : CStr) : MqttTopicMode :=
  if name = "custom".toList then .custom else .auto

def semanticSourceCode : SemanticSource → Nat
  | .unresolved => 0
  | .profile => 1
  | .user => 2
  | .discovery => 3
  | .imported => 4

def semanticStatusCode : SemanticStatus → Nat
  | .unresolved => 0
  | .inferred => 1
  | .resolved => 2
  | .verified => 3
  | .conflict => 4

def qualityCode : QualityState → Nat
  | .good => 0
  | .stale => 1
  | .invalid => 2

/-! ## Topics and keys -/

/-- What `amm_resolve_mqtt_topic` reads of the runtime configuration. -/
structure TopicConfig where
  dataPrefix : CStr
  gatewayId : CStr

/-- One round of the loop: a slash between, the leading slashes of the part dropped. -/
def appendPart (n : Nat) (out part : CStr) : CStr :=
  if part = [] then out
  else
    let out := if out ≠ [] ∧ out.getLast? ≠ some '/' then strlcpy n (out ++ ['/']) else out
    strlcpy n (out ++ part.dropWhile (· = '/'))

/-- `amm_resolve_mqtt_topic` into a buffer of `n` bytes. -/
def ammResolveMqttTopic (cfg : TopicConfig) (e : AmmMappingEntry) (n : Nat) : Except EspErr CStr :=
  if e.mqttTopicMode = .custom then
    if e.mqttTopic.str = [] then .error .notFound
    else if e.mqttTopic.str.length < n then .ok e.mqttTopic.str
    else .error .invalidSize
  else
    let out := [cfg.dataPrefix, cfg.gatewayId, e.deviceId.str, e.pointId.str].foldl (appendPart n) []
    if out ≠ [] ∧ out.length < n - 1 then .ok out else .error .invalidSize

/-- `mapping_effective_gw_key` into a buffer of `n` bytes. -/
def mappingEffectiveGwKey (e : AmmMappingEntry) (n : Nat) : CStr :=
  if e.gatewayPropertyKey.str ≠ [] then strlcpy n e.gatewayPropertyKey.str
  else
    match buildGatewayPropertyKey (e.channelId + 1) e.slaveId e.pointId.str n with
    | .ok key => key
    | .error _ => []

/-! ## The exported object -/

/-- The fields of a mapping in `mappings_get_handler`. -/
def mappingFields (cfg : TopicConfig) (e : AmmMappingEntry) : List (CStr × Json) :=
  [("source_protocol".toList, .str (protocolName e.sourceProtocol)),
    ("channel_id".toList, jsonNat e.channelId.toNat),
    ("slave_id".toList, jsonNat e.slaveId.toNat),
    ("register_address".toList, jsonNat e.registerAddress.toNat),
    ("data_type".toList, .str (dataTypeName e.dataType)),
    ("scale_factor".toList, .num e.scaleFactor),
    ("offset".toList, .num e.offset),
    ("function_code".toList, jsonNat e.functionCode.toNat),
    ("byte_order".toList, jsonNat e.byteOrder.code),
    ("read_start_address".toList, jsonNat e.readStartAddress.toNat),
    ("read_register_count".toList, jsonNat e.readRegisterCount.toNat),
    ("value_register_index".toList, jsonNat e.valueRegisterIndex.toNat),
    ("poll_interval_ms".toList, jsonNat e.pollIntervalMs.toNat),
    ("priority".toList, jsonNat e.priority.toNat),
    ("mapping_version".toList, jsonNat e.mappingVersion.val),
    ("object_type".toList, jsonNat e.objectType.code),
    ("bit_index".toList, jsonNat e.bitIndex.toNat),
    ("string_length".toList, jsonNat e.stringLength.toNat),
    ("retry_count".toList, jsonNat e.retryCount.toNat),
    ("retry_backoff_ms".toList, jsonNat e.retryBackoffMs.toNat),
    ("semantic_source".toList, jsonNat (semanticSourceCode e.semanticSource)),
    ("semantic_status".toList, jsonNat (semanticStatusCode e.semanticStatus)),
    ("semantic_profile_id".toList, .str e.semanticProfileId.str),
    ("semantic_profile_version".toList, jsonNat e.semanticProfileVersion.val),
    ("semantic_confidence".toList, jsonNat e.semanticConfidence.toNat),
    ("semantic_evidence".toList, .str e.semanticEvidence.str),
    ("device_id".toList, .str e.deviceId.str),
    ("point_id".toList, .str e.pointId.str),
    ("measurement_name".toList, .str e.measurementName.str),
    ("unit".toList, .str e.unit.str),
    ("mqtt_topic".toList, .str e.mqttTopic.str),
    ("mqtt_topic_mode".toList, .str (topicModeName e.mqttTopicMode)),
    ("effective_mqtt_topic".toList, .str
      (match ammResolveMqttTopic cfg e 128 with
        | .ok topic => topic
        | .error _ => [])),
    ("gateway_property_key".toList, .str e.gatewayPropertyKey.str),
    ("effective_gateway_property_key".toList, .str (mappingEffectiveGwKey e 64)),
    ("writable".toList, .bool e.constraint.writable),
    ("range_min".toList, .num e.constraint.validRangeMin),
    ("range_max".toList, .num e.constraint.validRangeMax)]

def stateFields : Option TcmContext → List (CStr × Json)
  | none => [("poll_status".toList, .str "pending".toList)]
  | some state =>
    [("current_timestamp_ms".toList, .num (.fin state.timestampMs)),
      ("quality_state".toList, jsonNat (qualityCode state.qualityState))] ++
    (if state.qualityState = .good ∨ state.qualityState = .stale then
      [("current_raw_value".toList, .num state.rawValue),
        ("current_value".toList, .num state.value),
        ("current_value_text".toList, .str state.valueText.str)]
    else []) ++
    [("poll_status".toList, .str
      (match state.qualityState with
        | .good => "ok".toList
        | .stale => "stale".toList
        | .invalid => "error".toList))]

def mappingJson (cfg : TopicConfig) (pool : StatePool) (e : AmmMappingEntry) : Json :=
  .obj (mappingFields cfg e ++ stateFields (tcmStatePoolGet e.deviceId.str e.pointId.str pool))

/-! ## Reading fields -/

/-- A field that is a number, converted; else the old value. -/
def readNumber {α : Type*} (root : Json) (name : String) (old : α) (conv : CFloat → α) : α :=
  match Json.number? (root.getObjectItem name.toList) with
  | some x => conv x
  | none => old

/-- A field that is a string, converted; else the old value. -/
def readText {α : Type*} (root : Json) (name : String) (old : α) (conv : CStr → α) : α :=
  match Json.string? (root.getObjectItem name.toList) with
  | some s => conv s
  | none => old

def readBool (root : Json) (name : String) (old : Bool) : Bool :=
  match root.getObjectItem name.toList with
  | some (.bool b) => b
  | _ => old

/-- `(uint8_t)value->valueint`. -/
def intUInt8 (x : CFloat) : UInt8 := .ofInt (Json.valueInt x)

/-- `(uint16_t)value->valueint`. -/
def intUInt16 (x : CFloat) : UInt16 := .ofInt (Json.valueInt x)

/-- `(byte_order_t)value->valueint`: the enumeration is an `unsigned int`. -/
def intByteOrder (x : CFloat) : ByteOrder := .ofCode (Json.valueInt x % 2 ^ 32).toNat

/-- `(uint8_t)value->valuedouble`. -/
def doubleUInt8 (x : CFloat) : UInt8 := .ofNat (x.toUInt 8)

/-- `(uint16_t)value->valuedouble`. -/
def doubleUInt16 (x : CFloat) : UInt16 := .ofNat (x.toUInt 16)

/-- `(uint32_t)value->valuedouble`. -/
def doubleUInt32 (x : CFloat) : UInt32 := .ofNat (x.toUInt 32)

/-! ## The imported entry -/

/-- The entry that `mapping_entry_from_json` fills in. -/
def importDefaults (defaultPollMs : UInt32) : AmmMappingEntry :=
  { AmmMappingEntry.zero with
    sourceProtocol := .modbusRtu
    functionCode := 3
    dataType := .uint16
    byteOrder := .abcd
    scaleFactor := .fin 1
    pollIntervalMs := defaultPollMs
    priority := 5
    retryCount := 2
    retryBackoffMs := 50
    semanticSource := .imported
    semanticStatus := .resolved
    semanticConfidence := 100
    semanticEvidence := .copy 48 "mapping profile import".toList }

def readImported (defaultPollMs : UInt32) (root : Json) : AmmMappingEntry :=
  let d := importDefaults defaultPollMs
  let functionCode := readNumber root "function_code" d.functionCode intUInt8
  { d with
    sourceProtocol := readText root "source_protocol" d.sourceProtocol parseProtocol
    channelId := readNumber root "channel_id" d.channelId intUInt8
    slaveId := readNumber root "slave_id" d.slaveId intUInt8
    functionCode := functionCode
    objectType := objectTypeOf functionCode
    registerAddress := readNumber root "register_address" d.registerAddress intUInt16
    dataType := readText root "data_type" d.dataType parseDataTypeName
    byteOrder := readNumber root "byte_order" d.byteOrder intByteOrder
    scaleFactor := readNumber root "scale_factor" d.scaleFactor toFloat
    offset := readNumber root "offset" d.offset toFloat
    pollIntervalMs := readNumber root "poll_interval_ms" d.pollIntervalMs doubleUInt32
    priority := readNumber root "priority" d.priority intUInt8
    readStartAddress := readNumber root "read_start_address" d.readStartAddress intUInt16
    readRegisterCount := readNumber root "read_register_count" d.readRegisterCount intUInt8
    valueRegisterIndex := readNumber root "value_register_index" d.valueRegisterIndex intUInt8
    bitIndex := readNumber root "bit_index" d.bitIndex intUInt8
    stringLength := readNumber root "string_length" d.stringLength intUInt8
    retryCount := readNumber root "retry_count" d.retryCount intUInt8
    retryBackoffMs := readNumber root "retry_backoff_ms" d.retryBackoffMs intUInt16
    deviceId := readText root "device_id" d.deviceId (.copy 32)
    pointId := readText root "point_id" d.pointId (.copy 32)
    measurementName := readText root "measurement_name" d.measurementName (.copy 32)
    unit := readText root "unit" d.unit (.copy 16)
    mqttTopic := readText root "mqtt_topic" d.mqttTopic (.copy 128)
    mqttTopicMode := readText root "mqtt_topic_mode" d.mqttTopicMode parseTopicMode
    gatewayPropertyKey := readText root "gateway_property_key" d.gatewayPropertyKey (.copy 64)
    semanticProfileId := readText root "semantic_profile_id" d.semanticProfileId (.copy 32)
    semanticProfileVersion := readNumber root "semantic_profile_version" d.semanticProfileVersion
      fun x => Fin.ofNat _ (x.toUInt 32)
    semanticConfidence := readNumber root "semantic_confidence" d.semanticConfidence intUInt8
    semanticEvidence := readText root "semantic_evidence" d.semanticEvidence (.copy 48)
    constraint :=
      { writable := readBool root "writable" d.constraint.writable
        validRangeMin := readNumber root "range_min" d.constraint.validRangeMin toFloat
        validRangeMax := readNumber root "range_max" d.constraint.validRangeMax toFloat }
    active := true }

def customKeyOk (e : AmmMappingEntry) : Bool :=
  e.gatewayPropertyKey.str = [] || gatewayKeyValid e.gatewayPropertyKey.str

def customTopicOk (e : AmmMappingEntry) : Bool :=
  e.mqttTopicMode ≠ .custom || e.mqttTopic.str ≠ []

/-- `mapping_entry_from_json`: `none` for `false`. -/
def mappingEntryFromJson (defaultPollMs : UInt32) (root : Json) : Option AmmMappingEntry :=
  match root with
  | .obj _ =>
    let e := readImported defaultPollMs root
    if customKeyOk e = false then none
    else if customTopicOk e = false then none
    else if importable e = false then none
    else some e
  | _ => none

/-! ## The posted entry -/

/-- The entry that `mappings_post_handler` fills in. -/
def postDefaults (defaultPollMs : UInt32) : AmmMappingEntry :=
  { AmmMappingEntry.zero with
    sourceProtocol := .modbusRtu
    functionCode := 3
    scaleFactor := .fin 1
    pollIntervalMs := defaultPollMs
    priority := 5
    retryCount := 2
    retryBackoffMs := 50
    semanticSource := .user
    semanticStatus := .verified
    semanticConfidence := 100
    mqttTopicMode := .auto
    semanticProfileId := .copy 32 "user-confirmed".toList
    semanticProfileVersion := 1
    semanticEvidence := .copy 48 "web configuration".toList }

def readPosted (defaultPollMs : UInt32) (root : Json) : AmmMappingEntry :=
  let d := postDefaults defaultPollMs
  let functionCode := readNumber root "function_code" d.functionCode doubleUInt8
  { d with
    slaveId := readNumber root "slave_id" d.slaveId doubleUInt8
    registerAddress := readNumber root "register_address" d.registerAddress doubleUInt16
    scaleFactor := readNumber root "scale_factor" d.scaleFactor toFloat
    offset := readNumber root "offset" d.offset toFloat
    channelId := readNumber root "channel_id" d.channelId doubleUInt8
    functionCode := functionCode
    objectType := objectTypeOf functionCode
    byteOrder := readNumber root "byte_order" d.byteOrder intByteOrder
    readStartAddress := readNumber root "read_start_address" d.readStartAddress doubleUInt16
    readRegisterCount := readNumber root "read_register_count" d.readRegisterCount doubleUInt8
    valueRegisterIndex := readNumber root "value_register_index" d.valueRegisterIndex doubleUInt8
    pollIntervalMs := readNumber root "poll_interval_ms" d.pollIntervalMs doubleUInt32
    priority := readNumber root "priority" d.priority doubleUInt8
    sourceProtocol := readText root "source_protocol" d.sourceProtocol parseProtocol
    dataType := readText root "data_type" d.dataType parseDataTypeName
    deviceId := readText root "device_id" d.deviceId (.copy 32)
    pointId := readText root "point_id" d.pointId (.copy 32)
    measurementName := readText root "measurement_name" d.measurementName (.copy 32)
    unit := readText root "unit" d.unit (.copy 16)
    mqttTopic := readText root "mqtt_topic" d.mqttTopic (.copy 128)
    mqttTopicMode := readText root "mqtt_topic_mode" d.mqttTopicMode parseTopicMode
    gatewayPropertyKey := readText root "gateway_property_key" d.gatewayPropertyKey (.copy 64)
    constraint :=
      { writable := readBool root "writable" d.constraint.writable
        validRangeMin := readNumber root "range_min" d.constraint.validRangeMin toFloat
        validRangeMax := readNumber root "range_max" d.constraint.validRangeMax toFloat }
    active := true }

/-- What the web handlers compare of two points. -/
structure Place where
  protocol : SourceProtocol
  channelId : UInt8
  slaveId : UInt8
  registerAddress : UInt16
  deriving DecidableEq

def placeOf (e : AmmMappingEntry) : Place :=
  ⟨e.sourceProtocol, e.channelId, e.slaveId, e.registerAddress⟩

/-- Where the posted entry was before, as the `old_` fields of the request say. -/
def readOldPlace (root : Json) : Place where
  protocol := readText root "old_source_protocol" .modbusRtu parseProtocol
  channelId := readNumber root "old_channel_id" 0 intUInt8
  slaveId := readNumber root "old_slave_id" 0 intUInt8
  registerAddress := readNumber root "old_register_address" 0 intUInt16

end McpGateway.Web
