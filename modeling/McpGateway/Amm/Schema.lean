import McpGateway.Amm.Table
import McpGateway.Lib.CStruct
import McpGateway.Lib.Ieee

/-!
# Stored entries and their schemas

`amm_mapping_entry_t` and the layouts of schemas 2, 4 and 5 as lists of fields,
what the bytes of an entry mean, and the branches of `amm_load_from_nvs` that
turn the blob of a slot into an entry. A blob is an entry the running firmware
wrote, or the bytes an older one left.
-/

namespace McpGateway.Amm

open McpGateway.Lib McpGateway.Tcm

def ammNvsSchemaVersion : Nat := 7

inductive AmmField
  | mappingVersion | sourceProtocol | channelId | slaveId | functionCode | registerAddress
  | dataType | byteOrder | objectType | scaleFactor | offset | pollIntervalMs | priority
  | discovered | deviceId | pointId | measurementName | unit | mqttTopic | constraint | active
  | readStartAddress | readRegisterCount | valueRegisterIndex | bitIndex | stringLength
  | retryCount | retryBackoffMs | semanticSource | semanticStatus | semanticProfileId
  | semanticProfileVersion | semanticConfidence | semanticEvidence | gatewayPropertyKey
  | mqttTopicMode
  deriving DecidableEq, Repr

/-- The type of a field; enumerations and floats take four bytes. -/
def AmmField.ctype : AmmField → CType
  | channelId | slaveId | functionCode | priority | discovered | active | readRegisterCount
  | valueRegisterIndex | bitIndex | stringLength | retryCount | semanticConfidence => ⟨1, 1⟩
  | registerAddress | readStartAddress | retryBackoffMs => ⟨2, 2⟩
  | deviceId | pointId | measurementName | semanticProfileId => ⟨32, 1⟩
  | unit => ⟨16, 1⟩
  | mqttTopic => ⟨128, 1⟩
  | semanticEvidence => ⟨48, 1⟩
  | gatewayPropertyKey => ⟨64, 1⟩
  | constraint => ⟨12, 4⟩
  | _ => ⟨4, 4⟩

/-- The fields of every schema before `object_type`. -/
def fieldsHead : List AmmField :=
  [.mappingVersion, .sourceProtocol, .channelId, .slaveId, .functionCode, .registerAddress,
    .dataType, .byteOrder]

def fieldsBody : List AmmField :=
  [.scaleFactor, .offset, .pollIntervalMs, .priority, .discovered, .deviceId, .pointId,
    .measurementName, .unit, .mqttTopic, .constraint, .active]

def fieldsWindow : List AmmField := [.readStartAddress, .readRegisterCount, .valueRegisterIndex]

def fieldsIndustrial : List AmmField :=
  [.bitIndex, .stringLength, .retryCount, .retryBackoffMs, .semanticSource, .semanticStatus,
    .semanticProfileId, .semanticProfileVersion, .semanticConfidence, .semanticEvidence]

/-- `amm_mapping_entry_v2_t`. -/
def fieldsV2 : List AmmField := fieldsHead ++ fieldsBody

/-- `amm_mapping_entry_v4_t`. -/
def fieldsV4 : List AmmField := fieldsV2 ++ fieldsWindow

/-- `amm_mapping_entry_v5_t`. -/
def fieldsV5 : List AmmField :=
  fieldsHead ++ .objectType :: fieldsBody ++ fieldsWindow ++ fieldsIndustrial

/-- The entry of schema 6, up to `mqtt_topic_mode`. -/
def fieldsV6 : List AmmField := fieldsV5 ++ [.gatewayPropertyKey]

/-- `amm_mapping_entry_t`. -/
def fieldsV7 : List AmmField := fieldsV6 ++ [.mqttTopicMode]

abbrev sizeOfFields (fs : List AmmField) : Nat := structSize AmmField.ctype fs

theorem sizes : sizeOfFields fieldsV2 = 296 ∧ sizeOfFields fieldsV4 = 300 ∧
    sizeOfFields fieldsV5 = 404 ∧ sizeOfFields fieldsV6 = 468 ∧ sizeOfFields fieldsV7 = 472 ∧
    offsetOf? AmmField.ctype fieldsV7 .mqttTopicMode = some 468 := by decide

theorem ctype_align_pos (f : AmmField) : 0 < f.ctype.align := by cases f <;> decide

/-! ## What the bytes mean -/

section Codes

def sourceProtocolOf : Nat → SourceProtocol
  | 0 => .modbusRtu
  | _ => .modbusTcp

def dataTypeOf : Nat → DataType
  | 0 => .int16
  | 1 => .uint16
  | 2 => .float32
  | 3 => .int32
  | 4 => .uint32
  | 5 => .bool
  | 6 => .int64
  | 7 => .uint64
  | 8 => .float64
  | 9 => .bcd16
  | 10 => .bitfield16
  | _ => .ascii

def semanticSourceOf : Nat → SemanticSource
  | 0 => .unresolved
  | 1 => .profile
  | 2 => .user
  | 3 => .discovery
  | _ => .imported

def semanticStatusOf : Nat → SemanticStatus
  | 0 => .unresolved
  | 1 => .inferred
  | 2 => .resolved
  | 3 => .verified
  | _ => .conflict

def mqttTopicModeOf : Nat → MqttTopicMode
  | 0 => .auto
  | 1 => .custom
  | n => .other n

end Codes

/-- A `char[n]` up to its terminating NUL. -/
def stringOf (n : Nat) [NeZero n] (bytes : List UInt8) : CBuf n :=
  .copy n ((bytes.takeWhile (· ≠ 0)).map fun b => Char.ofNat b.toNat)

def floatOf (bytes : List UInt8) : CFloat := ieeeDecode 8 23 (leNat bytes)

def boolOf (bytes : List UInt8) : Bool := decide (leNat bytes ≠ 0)

def constraintOf (bytes : List UInt8) : ControlConstraint where
  writable := boolOf (bytes.take 1)
  validRangeMin := floatOf ((bytes.drop 4).take 4)
  validRangeMax := floatOf ((bytes.drop 8).take 4)

/-- The entry whose fields have the bytes that `read` gives; no bytes mean zero. -/
def entryOf (read : AmmField → List UInt8) : AmmMappingEntry where
  mappingVersion := Fin.ofNat _ (leNat (read .mappingVersion))
  sourceProtocol := sourceProtocolOf (leNat (read .sourceProtocol))
  channelId := .ofNat (leNat (read .channelId))
  slaveId := .ofNat (leNat (read .slaveId))
  functionCode := .ofNat (leNat (read .functionCode))
  registerAddress := .ofNat (leNat (read .registerAddress))
  dataType := dataTypeOf (leNat (read .dataType))
  byteOrder := ByteOrder.ofCode (leNat (read .byteOrder))
  objectType := .ofCode (leNat (read .objectType))
  scaleFactor := floatOf (read .scaleFactor)
  offset := floatOf (read .offset)
  pollIntervalMs := .ofNat (leNat (read .pollIntervalMs))
  priority := .ofNat (leNat (read .priority))
  discovered := boolOf (read .discovered)
  deviceId := stringOf 32 (read .deviceId)
  pointId := stringOf 32 (read .pointId)
  measurementName := stringOf 32 (read .measurementName)
  unit := stringOf 16 (read .unit)
  mqttTopic := stringOf 128 (read .mqttTopic)
  constraint := constraintOf (read .constraint)
  active := boolOf (read .active)
  readStartAddress := .ofNat (leNat (read .readStartAddress))
  readRegisterCount := .ofNat (leNat (read .readRegisterCount))
  valueRegisterIndex := .ofNat (leNat (read .valueRegisterIndex))
  bitIndex := .ofNat (leNat (read .bitIndex))
  stringLength := .ofNat (leNat (read .stringLength))
  retryCount := .ofNat (leNat (read .retryCount))
  retryBackoffMs := .ofNat (leNat (read .retryBackoffMs))
  semanticSource := semanticSourceOf (leNat (read .semanticSource))
  semanticStatus := semanticStatusOf (leNat (read .semanticStatus))
  semanticProfileId := stringOf 32 (read .semanticProfileId)
  semanticProfileVersion := Fin.ofNat _ (leNat (read .semanticProfileVersion))
  semanticConfidence := .ofNat (leNat (read .semanticConfidence))
  semanticEvidence := stringOf 48 (read .semanticEvidence)
  gatewayPropertyKey := stringOf 64 (read .gatewayPropertyKey)
  mqttTopicMode := mqttTopicModeOf (leNat (read .mqttTopicMode))

/-- The entry in an image of a structure with the fields `fs`. -/
def entryIn (fs : List AmmField) (bytes : List UInt8) : AmmMappingEntry :=
  entryOf (readField AmmField.ctype fs bytes)

example : entryOf (fun _ => []) = .zero := by decide +kernel

/-! ## Loading a blob -/

/-- What `nvs_get_blob` finds under the key of a slot. -/
inductive Blob
  | current (e : AmmMappingEntry)
  | legacy (bytes : List UInt8)

/-- `memset` of the slot and `memcpy` of an image over its start. -/
def copiedEntry (bytes : List UInt8) : AmmMappingEntry :=
  entryIn fieldsV7 (bytes ++ List.replicate (sizeOfFields fieldsV7 - bytes.length) 0)

def migrateTopicMode (e : AmmMappingEntry) : AmmMappingEntry :=
  { e with
    mqttTopicMode := if e.semanticSource = .user ∧ e.mqttTopic.str ≠ [] then .custom else .auto }

/-- The fields a schema-4 entry gets. -/
def migrateV4 (e : AmmMappingEntry) : AmmMappingEntry :=
  ammNormalizeReadWindow
    { e with
      objectType := if e.functionCode = 4 then .inputRegister else .holdingRegister
      semanticSource := .imported
      semanticStatus := .resolved
      semanticConfidence := 100
      semanticEvidence := .copy 48 "schema-v4 migration".toList }

/-- The read window that schema 2 did not store. -/
def migrateV2 (e : AmmMappingEntry) : AmmMappingEntry :=
  ammNormalizeReadWindow
    { e with
      readStartAddress := e.registerAddress
      readRegisterCount := ammPointRegisterCount e.dataType
      valueRegisterIndex := 0 }

/-- The branches on the size of a blob and the loaded schema version. -/
def loadBlob (schema : Nat) : Blob → Except EspErr AmmMappingEntry
  | .current e => if schema = ammNvsSchemaVersion then .ok e else .error .invalidSize
  | .legacy bytes =>
    if bytes.length = sizeOfFields fieldsV7 ∧ schema = ammNvsSchemaVersion then
      .ok (copiedEntry bytes)
    else if bytes.length = sizeOfFields fieldsV6 ∧ schema = 6 then
      .ok (migrateTopicMode (copiedEntry bytes))
    else if bytes.length = sizeOfFields fieldsV5 ∧ schema = 5 then .ok (copiedEntry bytes)
    else if bytes.length = sizeOfFields fieldsV4 ∧ schema = 4 then
      .ok (migrateV4 (entryIn fieldsV4 bytes))
    else if bytes.length = sizeOfFields fieldsV2 ∧ schema < ammNvsSchemaVersion then
      .ok (migrateV2 (copiedEntry bytes))
    else .error .invalidSize

/-- What `amm_load_from_nvs` does to every loaded entry at the end. -/
def loadedEntry (dflt : UInt32) (e : AmmMappingEntry) : AmmMappingEntry :=
  let e := withPollInterval dflt e
  ammNormalizeReadWindow
    (if e.scaleFactor = .fin 0 then { e with scaleFactor := .fin 1 } else e)

end McpGateway.Amm
