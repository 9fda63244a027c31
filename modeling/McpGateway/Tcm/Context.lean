import McpGateway.Config
import McpGateway.Lib.CFloat

/-!
# TCM context objects

`tcm_context.h` and the constructor and validator of `tcm_context.c`. String
fields are buffers of the source's sizes. `tcm_context_t.validated` is left
out: no modelled function reads it.
-/

namespace McpGateway.Tcm

open McpGateway.Lib

inductive QualityState
  | good | stale | invalid
  deriving DecidableEq, Repr

inductive NetworkState
  | online | delayed | offline | replayed
  deriving DecidableEq, Repr

inductive OperationType
  | readPublish | subscribe | write | replay | readOnly
  deriving DecidableEq, Repr

inductive SourceProtocol
  | modbusRtu | modbusTcp
  deriving DecidableEq, Repr

inductive DataType
  | int16 | uint16 | float32 | int32 | uint32 | bool
  | int64 | uint64 | float64 | bcd16 | bitfield16 | ascii
  deriving DecidableEq, Repr

/-- `byte_order_t`; the field can hold other numbers. -/
inductive ByteOrder
  | abcd | cdab | badc | dcba
  | other (code : Nat)
  deriving DecidableEq, Repr

/-- `modbus_object_type_t`; the field can hold other numbers. -/
inductive ObjectType
  | coil | discreteInput | holdingRegister | inputRegister
  | other (code : Nat)
  deriving DecidableEq, Repr

inductive SemanticSource
  | unresolved | profile | user | discovery | imported
  deriving DecidableEq, Repr

inductive SemanticStatus
  | unresolved | inferred | resolved | verified | conflict
  deriving DecidableEq, Repr

def ByteOrder.code : ByteOrder → Nat
  | .abcd => 0
  | .cdab => 1
  | .badc => 2
  | .dcba => 3
  | .other n => n

/-- `(byte_order_t)n`. -/
def ByteOrder.ofCode : Nat → ByteOrder
  | 0 => .abcd
  | 1 => .cdab
  | 2 => .badc
  | 3 => .dcba
  | n => .other n

def ObjectType.code : ObjectType → Nat
  | .coil => 1
  | .discreteInput => 2
  | .holdingRegister => 3
  | .inputRegister => 4
  | .other n => n

/-- `(modbus_object_type_t)n`. -/
def ObjectType.ofCode : Nat → ObjectType
  | 1 => .coil
  | 2 => .discreteInput
  | 3 => .holdingRegister
  | 4 => .inputRegister
  | n => .other n

structure ControlConstraint where
  writable : Bool
  validRangeMin : CFloat
  validRangeMax : CFloat
  deriving DecidableEq

/-- `tcm_context_t`. -/
structure TcmContext where
  tcmVersion : CBuf 8
  gatewayId : CBuf 48
  channelId : UInt8
  contextId : SeqId
  deviceId : CBuf 32
  pointId : CBuf 32
  sourceProtocol : SourceProtocol
  slaveId : UInt8
  functionCode : UInt8
  registerAddress : UInt16
  dataType : DataType
  measurementName : CBuf 32
  unit : CBuf 16
  value : CFloat
  rawValue : CFloat
  valueText : CBuf 32
  scaleFactor : CFloat
  offset : CFloat
  byteOrder : ByteOrder
  timestampMs : Int
  qualityState : QualityState
  networkState : NetworkState
  operationType : OperationType
  controlConstraint : ControlConstraint
  sequenceId : SeqId
  mappingVersion : SeqId
  gatewayPropertyKey : CBuf 64
  objectType : ObjectType
  semanticSource : SemanticSource
  semanticStatus : SemanticStatus
  semanticProfileId : CBuf 32
  semanticProfileVersion : SeqId
  semanticConfidence : UInt8
  semanticEvidence : CBuf 48
  timestampSynchronized : Bool
  deriving DecidableEq

/-- `memset(ctx, 0, sizeof(*ctx))`. -/
def TcmContext.zero : TcmContext where
  tcmVersion := .empty
  gatewayId := .empty
  channelId := 0
  contextId := 0
  deviceId := .empty
  pointId := .empty
  sourceProtocol := .modbusRtu
  slaveId := 0
  functionCode := 0
  registerAddress := 0
  dataType := .int16
  measurementName := .empty
  unit := .empty
  value := .fin 0
  rawValue := .fin 0
  valueText := .empty
  scaleFactor := .fin 0
  offset := .fin 0
  byteOrder := .abcd
  timestampMs := 0
  qualityState := .good
  networkState := .online
  operationType := .readPublish
  controlConstraint := { writable := false, validRangeMin := .fin 0, validRangeMax := .fin 0 }
  sequenceId := 0
  mappingVersion := 0
  gatewayPropertyKey := .empty
  objectType := .other 0
  semanticSource := .unresolved
  semanticStatus := .unresolved
  semanticProfileId := .empty
  semanticProfileVersion := 0
  semanticConfidence := 0
  semanticEvidence := .empty
  timestampSynchronized := false

def tcmVersion : CStr := "1.1".toList

/-- What `tcm_build_context` takes from outside its arguments: the configured
gateway id, the clock, and the next values of the two counters. -/
structure BuildEnv where
  gatewayId : CStr
  nowMs : Int
  contextId : SeqId
  sequenceId : SeqId

def tcmBuildContext (env : BuildEnv) (slaveId funcCode : UInt8) (regAddr : UInt16)
    (rawValue : CFloat) (quality : QualityState) (netState : NetworkState) : Option TcmContext :=
  if slaveId = 0 ∨ funcCode < 1 ∨ funcCode > 4 then none
  else
    let pointId : CBuf 32 := .copy 32 ("reg_".toList ++ printDecimal regAddr.toNat)
    some { TcmContext.zero with
      tcmVersion := .copy 8 tcmVersion
      gatewayId := .copy 48 env.gatewayId
      contextId := env.contextId
      deviceId := .copy 32 ("modbus_".toList ++ printDecimal slaveId.toNat)
      pointId := pointId
      measurementName := .copy 32 pointId.str
      slaveId := slaveId
      functionCode := funcCode
      objectType := .ofCode funcCode.toNat
      registerAddress := regAddr
      dataType := .uint16
      rawValue := rawValue
      scaleFactor := .fin 1
      value := rawValue
      timestampMs := env.nowMs
      timestampSynchronized := decide (env.nowMs > 1609459200000)
      qualityState := quality
      networkState := netState
      sequenceId := env.sequenceId }

/-- The fields `tcm_validate` rejects, by their bit in `failed_field_mask`. The
two enumeration checks cannot fail here. -/
def failedFields (ctx : TcmContext) : List Nat :=
  (if ctx.deviceId.str = [] then [1] else []) ++
    (if ctx.pointId.str = [] then [2] else []) ++
    (if ctx.slaveId = 0 ∨ ctx.slaveId > 247 then [4] else []) ++
    (if ctx.functionCode ∉ ([1, 2, 3, 4, 5, 6, 15, 16] : List UInt8) then [5] else [])

def tcmValidate (ctx : TcmContext) : Bool := decide (failedFields ctx = [])

theorem tcmValidate_iff {ctx : TcmContext} : tcmValidate ctx = true ↔
    ctx.deviceId.str ≠ [] ∧ ctx.pointId.str ≠ [] ∧ ¬ (ctx.slaveId = 0 ∨ ctx.slaveId > 247) ∧
      ctx.functionCode ∈ ([1, 2, 3, 4, 5, 6, 15, 16] : List UInt8) := by
  simp only [tcmValidate, failedFields, decide_eq_true_eq, List.append_eq_nil_iff,
    ite_eq_right_iff, List.cons_ne_nil, imp_false, not_not, and_assoc, ne_eq]

theorem tcmBuildContext_isSome {slaveId functionCode : UInt8}
    (h : ¬ (slaveId = 0 ∨ functionCode < 1 ∨ functionCode > 4)) (env : BuildEnv) (regAddr : UInt16)
    (rawValue : CFloat) (quality : QualityState) (netState : NetworkState) :
    (tcmBuildContext env slaveId functionCode regAddr rawValue quality netState).isSome := by
  unfold tcmBuildContext
  rw [if_neg h]
  rfl

end McpGateway.Tcm
