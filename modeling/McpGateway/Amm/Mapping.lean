import McpGateway.Tcm.Context

/-!
# Mapping entries

`amm_mapping.h` and the functions of `amm_mapping.c` on single entries: the
read-window normalisation, the keys and the overlay of user semantics.
-/

namespace McpGateway.Amm

open McpGateway.Lib McpGateway.Tcm

def ammMaxReadRegisters : Nat := 64
def ammRollbackMaxEntries : Nat := 256

/-- `mqtt_topic_mode_t`; the field can hold other numbers. -/
inductive MqttTopicMode
  | auto
  | custom
  | other (code : Nat)
  deriving DecidableEq, Repr

/-- `amm_mapping_entry_t`. -/
structure AmmMappingEntry where
  mappingVersion : SeqId
  sourceProtocol : SourceProtocol
  channelId : UInt8
  slaveId : UInt8
  functionCode : UInt8
  registerAddress : UInt16
  dataType : DataType
  byteOrder : ByteOrder
  objectType : ObjectType
  scaleFactor : CFloat
  offset : CFloat
  pollIntervalMs : UInt32
  priority : UInt8
  discovered : Bool
  deviceId : CBuf 32
  pointId : CBuf 32
  measurementName : CBuf 32
  unit : CBuf 16
  mqttTopic : CBuf 128
  constraint : ControlConstraint
  active : Bool
  readStartAddress : UInt16
  readRegisterCount : UInt8
  valueRegisterIndex : UInt8
  bitIndex : UInt8
  stringLength : UInt8
  retryCount : UInt8
  retryBackoffMs : UInt16
  semanticSource : SemanticSource
  semanticStatus : SemanticStatus
  semanticProfileId : CBuf 32
  semanticProfileVersion : SeqId
  semanticConfidence : UInt8
  semanticEvidence : CBuf 48
  gatewayPropertyKey : CBuf 64
  mqttTopicMode : MqttTopicMode
  deriving DecidableEq

/-- `memset(&entry, 0, sizeof(entry))`. -/
def AmmMappingEntry.zero : AmmMappingEntry where
  mappingVersion := 0
  sourceProtocol := .modbusRtu
  channelId := 0
  slaveId := 0
  functionCode := 0
  registerAddress := 0
  dataType := .int16
  byteOrder := .abcd
  objectType := .other 0
  scaleFactor := .fin 0
  offset := .fin 0
  pollIntervalMs := 0
  priority := 0
  discovered := false
  deviceId := .empty
  pointId := .empty
  measurementName := .empty
  unit := .empty
  mqttTopic := .empty
  constraint := { writable := false, validRangeMin := .fin 0, validRangeMax := .fin 0 }
  active := false
  readStartAddress := 0
  readRegisterCount := 0
  valueRegisterIndex := 0
  bitIndex := 0
  stringLength := 0
  retryCount := 0
  retryBackoffMs := 0
  semanticSource := .unresolved
  semanticStatus := .unresolved
  semanticProfileId := .empty
  semanticProfileVersion := 0
  semanticConfidence := 0
  semanticEvidence := .empty
  gatewayPropertyKey := .empty
  mqttTopicMode := .auto

/-- A 16-bit holding register of slave 1, as a caller describes it. -/
def holdingPoint (registerAddress : UInt16) (device point : CStr) : AmmMappingEntry :=
  { AmmMappingEntry.zero with
    slaveId := 1
    functionCode := 3
    registerAddress := registerAddress
    dataType := .uint16
    scaleFactor := .fin 1
    deviceId := .copy 32 device
    pointId := .copy 32 point }

def samplePoint : AmmMappingEntry := holdingPoint 0 "meter".toList "power".toList

/-- The input register at the address of `samplePoint`. -/
def inputPoint : AmmMappingEntry :=
  { holdingPoint 0 "meter".toList "input".toList with functionCode := 4 }

def ammPointRegisterCount : DataType → UInt8
  | .float32 | .int32 | .uint32 => 2
  | .float64 | .int64 | .uint64 => 4
  | _ => 1

/-- The registers a point takes: those of its type, or of its text. -/
def pointCount (e : AmmMappingEntry) : UInt8 :=
  if e.dataType = .ascii ∧ e.stringLength > 0 then
    UInt8.ofNat ((e.stringLength.toNat + 1) / 2)
  else ammPointRegisterCount e.dataType

/-- The read window of an entry holds `count` registers at its value index. -/
def windowHolds (e : AmmMappingEntry) (count : Nat) : Bool :=
  e.readRegisterCount ≠ 0 && decide (e.readRegisterCount.toNat ≤ ammMaxReadRegisters) &&
    decide (e.valueRegisterIndex.toNat + count ≤ e.readRegisterCount.toNat)

def normalizeTopicMode (e : AmmMappingEntry) : AmmMappingEntry :=
  if e.mqttTopicMode ≠ .custom then { e with mqttTopicMode := .auto } else e

def objectTypeOf (functionCode : UInt8) : ObjectType :=
  if 1 ≤ functionCode ∧ functionCode ≤ 4 then .ofCode functionCode.toNat else .holdingRegister

def normalizeObjectType (e : AmmMappingEntry) : AmmMappingEntry :=
  if e.objectType.code < 1 ∨ e.objectType.code > 4 then
    { e with objectType := objectTypeOf e.functionCode }
  else e

def normalizeRetries (e : AmmMappingEntry) : AmmMappingEntry :=
  { e with
    retryCount := if e.retryCount = 0 then 2 else e.retryCount
    retryBackoffMs := if e.retryBackoffMs = 0 then 50 else e.retryBackoffMs
    semanticConfidence := if e.semanticConfidence > 100 then 100 else e.semanticConfidence }

def normalizeWindow (e : AmmMappingEntry) : AmmMappingEntry :=
  if windowHolds e (pointCount e).toNat then e
  else
    { e with
      readStartAddress := e.registerAddress
      readRegisterCount := pointCount e
      valueRegisterIndex := 0 }

def ammNormalizeReadWindow (e : AmmMappingEntry) : AmmMappingEntry :=
  normalizeWindow (normalizeRetries (normalizeObjectType (normalizeTopicMode e)))

/-- The physical key of an entry: protocol, channel, slave, function code, address. -/
structure PhysicalKey where
  sourceProtocol : SourceProtocol
  channelId : UInt8
  slaveId : UInt8
  functionCode : UInt8
  registerAddress : UInt16
  deriving DecidableEq

def AmmMappingEntry.key (e : AmmMappingEntry) : PhysicalKey :=
  ⟨e.sourceProtocol, e.channelId, e.slaveId, e.functionCode, e.registerAddress⟩

def ammSamePhysicalPoint (a b : AmmMappingEntry) : Bool := decide (a.key = b.key)

def AmmMappingEntry.names (e : AmmMappingEntry) : CStr × CStr := (e.deviceId.str, e.pointId.str)

def ammOverlayUserSemantics (user e : AmmMappingEntry) : AmmMappingEntry :=
  { e with
    dataType := user.dataType
    byteOrder := user.byteOrder
    scaleFactor := user.scaleFactor
    offset := user.offset
    pollIntervalMs := user.pollIntervalMs
    priority := user.priority
    constraint := user.constraint
    readStartAddress := user.readStartAddress
    readRegisterCount := user.readRegisterCount
    valueRegisterIndex := user.valueRegisterIndex
    deviceId := user.deviceId
    pointId := user.pointId
    measurementName := user.measurementName
    unit := user.unit
    mqttTopic := user.mqttTopic
    mqttTopicMode := user.mqttTopicMode
    semanticSource := user.semanticSource
    semanticStatus := user.semanticStatus
    semanticConfidence := user.semanticConfidence
    semanticProfileId := user.semanticProfileId
    semanticProfileVersion := user.semanticProfileVersion
    semanticEvidence := user.semanticEvidence }

/-! ## What normalisation leaves alone -/

theorem normalizeWindow_keeps {κ : Type*} (key : AmmMappingEntry → κ)
    (hwindow : ∀ e s c i,
      key { e with readStartAddress := s, readRegisterCount := c, valueRegisterIndex := i } = key e)
    (e : AmmMappingEntry) : key (normalizeWindow e) = key e := by
  unfold normalizeWindow
  split
  · rfl
  · exact hwindow e _ _ _

theorem normalize_keeps {κ : Type*} (key : AmmMappingEntry → κ)
    (htopic : ∀ e m, key { e with mqttTopicMode := m } = key e)
    (hobject : ∀ e t, key { e with objectType := t } = key e)
    (hretries : ∀ e r b c,
      key { e with retryCount := r, retryBackoffMs := b, semanticConfidence := c } = key e)
    (hwindow : ∀ e s c i,
      key { e with readStartAddress := s, readRegisterCount := c, valueRegisterIndex := i } = key e)
    (e : AmmMappingEntry) : key (ammNormalizeReadWindow e) = key e := by
  have hmode : key (normalizeTopicMode e) = key e := by
    unfold normalizeTopicMode
    split
    · exact htopic e _
    · rfl
  have htype : ∀ e, key (normalizeObjectType e) = key e := by
    intro e
    unfold normalizeObjectType
    split
    · exact hobject e _
    · rfl
  rw [ammNormalizeReadWindow, normalizeWindow_keeps key hwindow, normalizeRetries,
    hretries, htype, hmode]

@[simp] theorem normalize_pollIntervalMs (e : AmmMappingEntry) :
    (ammNormalizeReadWindow e).pollIntervalMs = e.pollIntervalMs :=
  normalize_keeps AmmMappingEntry.pollIntervalMs (fun _ _ => rfl) (fun _ _ => rfl)
    (fun _ _ _ _ => rfl) (fun _ _ _ _ => rfl) e

@[simp] theorem normalize_scaleFactor (e : AmmMappingEntry) :
    (ammNormalizeReadWindow e).scaleFactor = e.scaleFactor :=
  normalize_keeps AmmMappingEntry.scaleFactor (fun _ _ => rfl) (fun _ _ => rfl)
    (fun _ _ _ _ => rfl) (fun _ _ _ _ => rfl) e

/-! ## What normalisation gives -/

/-- The read window holds the point, or is the point itself. -/
def OwnWindow (e : AmmMappingEntry) : Prop :=
  windowHolds e (pointCount e).toNat = true ∨
    e.readStartAddress = e.registerAddress ∧ e.readRegisterCount = pointCount e ∧
      e.valueRegisterIndex = 0

/-- An entry that the normalisation leaves as it is. -/
structure Normal (e : AmmMappingEntry) : Prop where
  topicMode : e.mqttTopicMode = .auto ∨ e.mqttTopicMode = .custom
  objectType : 1 ≤ e.objectType.code ∧ e.objectType.code ≤ 4
  retryCount : e.retryCount ≠ 0
  retryBackoff : e.retryBackoffMs ≠ 0
  confidence : e.semanticConfidence ≤ 100
  window : OwnWindow e

theorem objectTypeOf_code (functionCode : UInt8) :
    1 ≤ (objectTypeOf functionCode).code ∧ (objectTypeOf functionCode).code ≤ 4 := by
  unfold objectTypeOf
  split
  · rename_i hrange
    have hlow : 1 ≤ functionCode.toNat := hrange.1
    have hhigh : functionCode.toNat ≤ 4 := hrange.2
    generalize functionCode.toNat = n at hlow hhigh
    obtain rfl | rfl | rfl | rfl : n = 1 ∨ n = 2 ∨ n = 3 ∨ n = 4 := by omega
    all_goals decide
  · decide

theorem normalizeWindow_own (e : AmmMappingEntry) : OwnWindow (normalizeWindow e) := by
  unfold normalizeWindow
  split
  · exact .inl ‹_›
  · exact .inr ⟨rfl, rfl, rfl⟩

theorem normalizeWindow_of_own {e : AmmMappingEntry} (h : OwnWindow e) : normalizeWindow e = e := by
  unfold normalizeWindow
  split
  · rfl
  · rename_i hholds
    obtain ⟨hstart, hcount, hindex⟩ := h.resolve_left hholds
    rw [← hcount, ← hindex]
    clear hcount hindex hholds h
    cases e
    simp only at hstart
    subst hstart
    rfl

theorem normalize_of_normal {e : AmmMappingEntry} (h : Normal e) :
    ammNormalizeReadWindow e = e := by
  have htopic : normalizeTopicMode e = e := by
    unfold normalizeTopicMode
    split
    · rename_i hmode
      rw [← h.topicMode.resolve_right hmode]
    · rfl
  have hobject : normalizeObjectType e = e := by
    have hcode : ¬ (e.objectType.code < 1 ∨ e.objectType.code > 4) := by
      have := h.objectType
      omega
    rw [normalizeObjectType, if_neg hcode]
  have hretries : normalizeRetries e = e := by
    have hconfidence : ¬ e.semanticConfidence > 100 := UInt8.not_lt.2 h.confidence
    rw [normalizeRetries, if_neg h.retryCount, if_neg h.retryBackoff, if_neg hconfidence]
  rw [ammNormalizeReadWindow, htopic, hobject, hretries, normalizeWindow_of_own h.window]

theorem normalizeTopicMode_mode (e : AmmMappingEntry) :
    (normalizeTopicMode e).mqttTopicMode = .auto ∨
      (normalizeTopicMode e).mqttTopicMode = .custom := by
  unfold normalizeTopicMode
  split
  · exact .inl rfl
  · exact .inr (not_not.1 ‹_›)

theorem normalizeObjectType_mode (e : AmmMappingEntry) :
    (normalizeObjectType e).mqttTopicMode = e.mqttTopicMode := by
  unfold normalizeObjectType
  split <;> rfl

theorem normalizeObjectType_code (e : AmmMappingEntry) :
    1 ≤ (normalizeObjectType e).objectType.code ∧ (normalizeObjectType e).objectType.code ≤ 4 := by
  unfold normalizeObjectType
  split
  · exact objectTypeOf_code e.functionCode
  · omega

def normalObjectType (t : ObjectType) (functionCode : UInt8) : ObjectType :=
  if t.code < 1 ∨ t.code > 4 then objectTypeOf functionCode else t

theorem normalizeObjectType_eq (e : AmmMappingEntry) :
    normalizeObjectType e =
      { e with objectType := normalObjectType e.objectType e.functionCode } := by
  unfold normalizeObjectType normalObjectType
  split <;> rfl

theorem normalObjectType_objectTypeOf (functionCode : UInt8) :
    normalObjectType (objectTypeOf functionCode) functionCode = objectTypeOf functionCode := by
  have hcode := objectTypeOf_code functionCode
  rw [normalObjectType, if_neg (by omega)]

@[simp] theorem normalize_objectType (e : AmmMappingEntry) :
    (ammNormalizeReadWindow e).objectType = normalObjectType e.objectType e.functionCode := by
  rw [ammNormalizeReadWindow,
    normalizeWindow_keeps AmmMappingEntry.objectType fun _ _ _ _ => rfl]
  show (normalizeObjectType (normalizeTopicMode e)).objectType = _
  rw [normalizeObjectType_eq]
  unfold normalizeTopicMode
  split <;> rfl

theorem normalize_congr_objectType {e : AmmMappingEntry} {t : ObjectType}
    (h : normalObjectType t e.functionCode = normalObjectType e.objectType e.functionCode) :
    ammNormalizeReadWindow { e with objectType := t } = ammNormalizeReadWindow e := by
  have hsame : normalizeObjectType (normalizeTopicMode { e with objectType := t }) =
      normalizeObjectType (normalizeTopicMode e) := by
    rw [normalizeObjectType_eq, normalizeObjectType_eq]
    unfold normalizeTopicMode
    by_cases hmode : e.mqttTopicMode ≠ .custom
    · simp only [if_pos hmode, h]
    · simp only [if_neg hmode, h]
  rw [ammNormalizeReadWindow, hsame, ammNormalizeReadWindow]

theorem normalizeRetries_fields (e : AmmMappingEntry) :
    (normalizeRetries e).retryCount ≠ 0 ∧ (normalizeRetries e).retryBackoffMs ≠ 0 ∧
      (normalizeRetries e).semanticConfidence ≤ 100 := by
  refine ⟨?_, ?_, ?_⟩
  · show (if e.retryCount = 0 then 2 else e.retryCount) ≠ 0
    split
    · decide
    · assumption
  · show (if e.retryBackoffMs = 0 then 50 else e.retryBackoffMs) ≠ 0
    split
    · decide
    · assumption
  · show (if e.semanticConfidence > 100 then 100 else e.semanticConfidence) ≤ 100
    split
    · decide
    · exact UInt8.not_lt.1 ‹_›

theorem normal_normalize (e : AmmMappingEntry) : Normal (ammNormalizeReadWindow e) := by
  obtain ⟨hcount, hbackoff, hconfidence⟩ :=
    normalizeRetries_fields (normalizeObjectType (normalizeTopicMode e))
  refine ⟨?_, ?_, ?_, ?_, ?_, normalizeWindow_own _⟩
  · rw [ammNormalizeReadWindow,
      normalizeWindow_keeps AmmMappingEntry.mqttTopicMode fun _ _ _ _ => rfl]
    show (normalizeObjectType _).mqttTopicMode = _ ∨ (normalizeObjectType _).mqttTopicMode = _
    rw [normalizeObjectType_mode]
    exact normalizeTopicMode_mode e
  · rw [ammNormalizeReadWindow,
      normalizeWindow_keeps AmmMappingEntry.objectType fun _ _ _ _ => rfl]
    exact normalizeObjectType_code _
  · rw [ammNormalizeReadWindow,
      normalizeWindow_keeps AmmMappingEntry.retryCount fun _ _ _ _ => rfl]
    exact hcount
  · rw [ammNormalizeReadWindow,
      normalizeWindow_keeps AmmMappingEntry.retryBackoffMs fun _ _ _ _ => rfl]
    exact hbackoff
  · rw [ammNormalizeReadWindow,
      normalizeWindow_keeps AmmMappingEntry.semanticConfidence fun _ _ _ _ => rfl]
    exact hconfidence

theorem normalize_eq_iff (e : AmmMappingEntry) : ammNormalizeReadWindow e = e ↔ Normal e := by
  refine ⟨fun h => ?_, normalize_of_normal⟩
  rw [← h]
  exact normal_normalize e

end McpGateway.Amm
